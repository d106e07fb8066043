import ControlPlane.Tables

/-!
# Role based access control

The permission matrix. Roles are resolved from the active membership row; the
browser and the bot receive the same permission set.
-/

namespace ControlPlane

inductive Permission
  | viewDashboard
  | viewFinance
  | viewAudit
  | exportReports
  | createSupportTicket
  | answerSupport
  | requestFunding
  | requestAdjustment
  | decideFunding
  | manageServers
  | nodeControl
  | subscriberControl
  | adminLimit
  | manageResellers
  | changeBillingCoefficient
  | orderPanel
  | decideOrders
  | manageCatalog
  | decideAdjustment
  deriving DecidableEq, Repr

namespace Permission

/-- `VIEW`. -/
def view : List Permission :=
  [.viewDashboard, .viewFinance, .viewAudit, .exportReports, .createSupportTicket, .answerSupport]

/-- `MONEY_REQUEST`. -/
def moneyRequest : List Permission := [.requestFunding, .requestAdjustment]

/-- `MONEY_DECIDE`. -/
def moneyDecide : List Permission := [.decideFunding]

/-- `INFRA`. -/
def infra : List Permission := [.manageServers, .nodeControl, .subscriberControl, .adminLimit]

/-- `NETWORK`. -/
def network : List Permission := [.manageResellers]

/-- `PRICING`: the account that is billed may not change its own coefficient. -/
def pricing : List Permission := [.changeBillingCoefficient]

/-- `ORDER`. -/
def order : List Permission := [.orderPanel]

/-- `ORDER_DECIDE`. -/
def orderDecide : List Permission := [.decideOrders]

/-- `CATALOG`. -/
def catalog : List Permission := [.manageCatalog]

/-- `CUSTOMER`. -/
def customer : List Permission :=
  [.viewDashboard, .viewFinance, .exportReports, .createSupportTicket, .requestFunding,
    .subscriberControl] ++ order

/-- `LABELS_FA`. -/
def labelFa : Permission → String
  | .viewDashboard => "مشاهدهٔ داشبورد"
  | .viewFinance => "مشاهدهٔ مالی"
  | .viewAudit => "مشاهدهٔ گزارش‌های رسیدگی"
  | .exportReports => "خروجی گزارش"
  | .createSupportTicket => "ثبت درخواست پشتیبانی"
  | .answerSupport => "پاسخ به پشتیبانی"
  | .requestFunding => "درخواست افزایش اعتبار"
  | .decideFunding => "تأیید یا رد درخواست مالی"
  | .requestAdjustment => "درخواست اصلاح حساب"
  | .decideAdjustment => "تأیید اصلاح حساب"
  | .manageServers => "مدیریت سرورها"
  | .nodeControl => "روشن/خاموش و بازنشانی نود"
  | .subscriberControl => "مدیریت مشترکان"
  | .adminLimit => "تغییر سقف پنل"
  | .changeBillingCoefficient => "تغییر ضریب صورتحساب"
  | .manageResellers => "مدیریت نمایندگان"
  | .orderPanel => "ثبت و پیگیری سفارش پنل"
  | .decideOrders => "بررسی و تأیید سفارش پنل"
  | .manageCatalog => "مدیریت کاتالوگ پلن‌ها"

end Permission

open Permission in
/-- `MATRIX`: correcting a settled balance is left to the system administrator alone. -/
def permissionsFor : Role → List Permission
  | .systemAdmin =>
      view ++ moneyRequest ++ moneyDecide ++ infra ++ network ++ pricing ++ catalog ++ order ++
        orderDecide ++ [.decideAdjustment]
  | .resellerAdmin =>
      view ++ moneyRequest ++ moneyDecide ++ infra ++ network ++ catalog ++ order ++ orderDecide
  | .operator =>
      [.viewDashboard, .viewAudit, .exportReports, .manageServers, .nodeControl,
        .subscriberControl, .adminLimit]
  | .finance =>
      [.viewDashboard, .viewFinance, .viewAudit, .exportReports, .createSupportTicket] ++
        moneyRequest ++ moneyDecide
  | .support =>
      [.viewDashboard, .viewFinance, .createSupportTicket, .answerSupport, .subscriberControl]
  | .viewer => [.viewDashboard, .viewFinance, .exportReports]
  | .customer => customer

def can (role : Role) (permission : Permission) : Bool :=
  decide (permission ∈ permissionsFor role)

def denialFa (permission : Permission) : String :=
  "شما اجازهٔ «" ++ permission.labelFa ++ "» را ندارید."

/-- Only the system administrator holds the permission to correct settled balances. -/
theorem can_decideAdjustment {role : Role} :
    can role .decideAdjustment = true ↔ role = .systemAdmin := by
  cases role <;> decide

/-- The root Telegram identity is the only source of the system administrator role. -/
def effectiveRole (rootTelegramId : Option Int) (telegramId : Int) (membershipRole : Role) :
    Role :=
  if rootTelegramId = some telegramId then .systemAdmin else membershipRole

end ControlPlane
