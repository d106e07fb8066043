import ControlPlane.Api
import ControlPlane.Bot.Actions
import ControlPlane.Sample

/-!
# Whom an account acts for

Three resolvers find the membership that a Telegram account acts with: the one
of the WebApp routes, the one of the order routes, and the context of the bot.
Rows are returned in any order that a query does not fix. The resolvers agree
in all of these orders exactly when the account has no second membership to
choose.
-/

namespace ControlPlane

open ReadCommitted Orm

/-! ## What the resolvers return -/

section

variable (answers : Answers Database) (alone : Alone Database)

theorem run_get_bind (table : Table) (key : table.Key) (rest : Option table.Row → Op β) :
    (get table key >>= rest).run answers alone =
      (rest (Db.find alone.view table key)).run answers alone := rfl

theorem run_scalar_bind (table : Table) (condition : table.Row → Bool)
    (rest : Option table.Row → Op β) :
    (scalar table condition >>= rest).run answers alone =
      (rest (Db.first alone.view table condition)).run answers alone := rfl

theorem run_found_bind (value : Option α) (exception : Failure) (rest : α → Op β) :
    (found value exception >>= rest).run answers alone =
      match value with
      | some content => (rest content).run answers alone
      | none => (.error exception, alone) := by
  cases value <;> rfl

theorem run_branch (value : Option α) (absent : Op β) (present : α → Op β) :
    (branch value absent present).run answers alone =
      match value with
      | some content => (present content).run answers alone
      | none => absent.run answers alone := by
  cases value <;> rfl

end

namespace Db

/-- The active account behind a Telegram id. -/
def linkedActor (db : Db) (telegramId : Int) : Option Actor :=
  db.first .actors fun row => row.telegramId = telegramId ∧ row.status = .active

/-- The memberships that an account may act with. -/
def activeMemberships (db : Db) (actorId : Id) : List Membership :=
  db.memberships.filter fun row => row.actorId = actorId ∧ row.status = .active

/-- The value of a setting, or nothing. -/
def settingValue (db : Db) (key : String) : String :=
  match db.find .settings key with
  | some row => if row.value = "" then "" else row.value
  | none => ""

/-- The membership that `pick_membership` picks. -/
def picked (db : Db) (env : Env) (actorId : Id) (telegramId : Int) : Option Membership :=
  let rows := (db.activeMemberships actorId).insertionSort membershipLe
  if env.rootTelegramId = some telegramId then
    (rows.find? fun row => row.organizationId = db.settingValue "bootstrap_complete").or rows.head?
  else rows.head?

end Db

/-- What a chat acts with when it is linked to an identity. -/
def Bot.Context.of (env : Env) (chatId : Int) (identity : Identity) : Bot.Context :=
  ⟨identity.actor.id, identity.organization.id,
    effectiveRole env.rootTelegramId chatId identity.membership.role⟩

section

variable (answers : Answers Database) (alone : Alone Database)

theorem run_pickMembership_bind (env : Env) (actorId : Id) (telegramId : Int)
    (rest : Option Membership → Op β) :
    (pickMembership env actorId telegramId >>= rest).run answers alone =
      (rest (Db.picked alone.view env actorId telegramId)).run answers alone := by
  have ran : (pickMembership env actorId telegramId).run answers alone =
      (.ok (Db.picked alone.view env actorId telegramId), alone) := by
    unfold pickMembership Db.picked
    change (ite _ (pure _) (pure _) : Op _).run answers alone = _
    by_cases root : env.rootTelegramId = some telegramId
    · rw [if_pos root, if_pos root]
      rfl
    · rw [if_neg root, if_neg root]
      rfl
  rw [run_bind, ran]

/-- What the WebApp resolves: an active membership of the linked account, or a refusal. -/
theorem run_membershipFor (env : Env) (telegramId : Int) :
    ((membershipFor env telegramId).run answers alone).1 =
      match Db.linkedActor alone.view telegramId with
      | none => .error (.http 403 "Telegram account is not linked")
      | some actor =>
          match Db.picked alone.view env actor.id telegramId with
          | none => .error (.http 403 "active membership not found")
          | some membership =>
              match Db.find alone.view .organizations membership.organizationId with
              | none => .error .unexpected
              | some organization => .ok ⟨actor, membership, organization⟩ := by
  unfold membershipFor
  rw [run_scalar_bind, run_found_bind, show Db.first alone.view .actors _ =
    Db.linkedActor alone.view telegramId from rfl]
  cases Db.linkedActor alone.view telegramId with
  | none => rfl
  | some actor =>
      dsimp only
      rw [run_pickMembership_bind, run_found_bind]
      cases Db.picked alone.view env actor.id telegramId with
      | none => rfl
      | some membership =>
          dsimp only
          rw [run_get_bind, run_found_bind]
          cases Db.find alone.view .organizations membership.organizationId <;> rfl

/-- What the order routes resolve. -/
theorem run_optionalMembership (telegramId : Int) :
    (optionalMembership telegramId).run answers alone =
      (match Db.linkedActor alone.view telegramId with
      | none => .ok none
      | some actor =>
          match (Db.activeMemberships alone.view actor.id).head? with
          | none => .ok none
          | some membership =>
              match Db.find alone.view .organizations membership.organizationId with
              | none => .error .unexpected
              | some organization => .ok (some ⟨actor, membership, organization⟩), alone) := by
  unfold optionalMembership
  rw [run_scalar_bind, run_branch, show Db.first alone.view .actors _ =
    Db.linkedActor alone.view telegramId from rfl]
  cases Db.linkedActor alone.view telegramId with
  | none => rfl
  | some actor =>
      dsimp only
      rw [run_scalar_bind, run_branch]
      rw [show Db.first alone.view .memberships _ =
        (Db.activeMemberships alone.view actor.id).head? from (List.head?_filter ..).symm]
      cases (Db.activeMemberships alone.view actor.id).head? with
      | none => rfl
      | some membership =>
          dsimp only
          rw [run_get_bind, run_found_bind]
          cases Db.find alone.view .organizations membership.organizationId <;> rfl

/-- What the bot resolves, by the resolver of the order routes. -/
theorem serve_context (env : Env) (chatId : Int) (db : Db) :
    ((Bot.context env chatId).serve answers db).1 =
      ((optionalMembership chatId).serve answers db).1.map
        fun linked => linked.map (Bot.Context.of env chatId) := by
  change ((Bot.context env chatId).run answers (.opened db)).1 =
    ((optionalMembership chatId).run answers (.opened db)).1.map _
  unfold Bot.context withSession
  rw [run_bind, run_tryCatch, run_bind]
  cases outcome : (optionalMembership chatId).run answers (.opened db) with
  | mk result later => cases result <;> rfl

end

/-! ## Rows in any order -/

/-- The database returns the rows of each table in another order. -/
def Db.Reordered (db other : Db) : Prop :=
  ∀ table, (other.rows table).Perm (db.rows table)

/-- The row that a condition singles out is found in any order. -/
theorem find?_eq_of_perm {first second : List α} (same : first.Perm second) {condition : α → Bool}
    (unique : ∀ left ∈ first, ∀ right ∈ first, condition left = true → condition right = true →
      left = right) :
    first.find? condition = second.find? condition := by
  cases found : second.find? condition with
  | none =>
      rw [List.find?_eq_none] at found ⊢
      exact fun row member => found row (same.subset member)
  | some row =>
      have member := same.symm.subset (List.mem_of_find?_eq_some found)
      have holds : condition row = true := List.find?_some found
      cases other : first.find? condition with
      | none => exact absurd holds (List.find?_eq_none.mp other row member)
      | some chosen =>
          exact congrArg some (unique chosen (List.mem_of_find?_eq_some other) row member
            (List.find?_some other) holds)

instance : Std.Total membershipLe where
  total first second := by
    unfold membershipLe
    rcases lt_trichotomy first.createdAt second.createdAt with early | same | late
    · exact .inl (.inl early)
    · exact (String.le_total first.id second.id).imp (fun le => .inr ⟨same, le⟩)
        fun le => .inr ⟨same.symm, le⟩
    · exact .inr (.inl late)

instance : IsTrans Membership membershipLe where
  trans first second third early late := by
    unfold membershipLe at *
    rcases early with early | ⟨same, early⟩ <;> rcases late with late | ⟨equal, late⟩
    · exact .inl (early.trans late)
    · exact .inl (equal ▸ early)
    · exact .inl (same ▸ late)
    · exact .inr ⟨same.trans equal, String.le_trans early late⟩

/-- A Telegram id belongs to one account. -/
theorem Integrity.actor_eq {db : Db} (integrity : Integrity db) {first second : Actor}
    (firstMember : first ∈ db.actors) (secondMember : second ∈ db.actors)
    (same : first.telegramId = second.telegramId) : first = second := by
  exact integrity.eq_of_entry .actors firstMember rfl (List.mem_singleton_self _)
    secondMember rfl (by simp [Table.uniqueEntries, same])

/-- Of two memberships that both come first they are the same. -/
theorem Integrity.membershipLe_antisymm {db : Db} (integrity : Integrity db)
    {first second : Membership}
    (firstMember : first ∈ db.memberships) (secondMember : second ∈ db.memberships)
    (early : membershipLe first second) (late : membershipLe second first) : first = second := by
  refine integrity.eq_of_key .memberships firstMember rfl secondMember (congrArg some ?_)
  unfold membershipLe at early late
  rcases early with early | ⟨same, early⟩ <;> rcases late with late | ⟨equal, late⟩
  · exact absurd early late.asymm
  · exact absurd equal early.ne'
  · exact absurd same late.ne'
  · exact String.le_antisymm late early

/-- Only the memberships come in another order. -/
theorem Db.Reordered.ofMemberships (db : Db) {memberships : List Membership}
    (reordered : memberships.Perm db.memberships) :
    Db.Reordered db { db with memberships := memberships } := by
  intro table
  cases table
  case memberships => exact reordered
  all_goals exact .refl _

namespace Db.Reordered

variable {db other : Db} (reordered : Db.Reordered db other)

include reordered

theorem integrity (integrity : Integrity db) : Integrity other :=
  Layout.Integrity.reorder integrity reordered

/-- A row is found by its key in any order. -/
theorem find_eq (integrity : Integrity db) (table : Table) (key : table.Key) :
    other.find table key = db.find table key :=
  find?_eq_of_perm (reordered table) fun _ leftMember _ rightMember leftKey rightKey =>
    (reordered.integrity integrity).eq_of_key table leftMember (by simpa using leftKey)
      rightMember (by simpa using rightKey)

/-- The account behind a Telegram id is found in any order. -/
theorem linkedActor_eq (integrity : Integrity db) (telegramId : Int) :
    other.linkedActor telegramId = db.linkedActor telegramId := by
  refine find?_eq_of_perm (reordered .actors) fun left leftMember right rightMember
    leftHolds rightHolds => ?_
  simp only [Bool.decide_and, Bool.and_eq_true, decide_eq_true_eq] at leftHolds rightHolds
  exact (reordered.integrity integrity).actor_eq leftMember rightMember
    (leftHolds.1.trans rightHolds.1.symm)

theorem activeMemberships_perm (actorId : Id) :
    (other.activeMemberships actorId).Perm (db.activeMemberships actorId) :=
  (reordered .memberships).filter _

/-- The WebApp picks the same membership in any order. -/
theorem picked_eq (integrity : Integrity db) (env : Env) (actorId : Id) (telegramId : Int) :
    other.picked env actorId telegramId = db.picked env actorId telegramId := by
  have sorted : (other.activeMemberships actorId).insertionSort membershipLe =
      (db.activeMemberships actorId).insertionSort membershipLe := by
    refine List.Perm.eq_of_pairwise ?_ (List.pairwise_insertionSort membershipLe _)
      (List.pairwise_insertionSort membershipLe _)
      (((List.perm_insertionSort membershipLe _).trans
        (reordered.activeMemberships_perm actorId)).trans
          (List.perm_insertionSort membershipLe _).symm)
    intro left right leftMember rightMember early late
    rw [List.mem_insertionSort] at leftMember rightMember
    have leftRow := (reordered .memberships).subset (List.mem_of_mem_filter leftMember)
    have rightRow := List.mem_of_mem_filter rightMember
    exact integrity.membershipLe_antisymm leftRow rightRow early late
  have value : other.settingValue "bootstrap_complete" = db.settingValue "bootstrap_complete" := by
    unfold Db.settingValue
    rw [reordered.find_eq integrity]
  unfold Db.picked
  rw [sorted, value]

end Db.Reordered

/-! ## Agreement -/

/-- All resolvers find the same identity, or none. -/
def ResolversAgree (env : Env) (telegramId : Int) (db : Db) : Prop :=
  ∀ answers, ∃ linked : Option Identity,
    ((optionalMembership telegramId).serve answers db).1 = .ok linked ∧
      ((Bot.context env telegramId).serve answers db).1 =
        .ok (linked.map (Bot.Context.of env telegramId)) ∧
      match linked with
      | some identity => ((membershipFor env telegramId).serve answers db).1 = .ok identity
      | none => ∃ message,
          ((membershipFor env telegramId).serve answers db).1 = .error (.http 403 message)

/-- The active account behind a Telegram id has no second active membership. -/
def SoleMembership (telegramId : Int) (db : Db) : Prop :=
  ∀ actor ∈ db.actors, actor.telegramId = telegramId → actor.status = .active →
    ∀ first ∈ db.memberships, first.actorId = actor.id → first.status = .active →
      ∀ second ∈ db.memberships, second.actorId = actor.id → second.status = .active →
        first = second

section

variable {db : Db} {env : Env} {telegramId : Int}

theorem linkedActor_eq_some {actor : Actor} (linked : db.linkedActor telegramId = some actor) :
    actor ∈ db.actors ∧ actor.telegramId = telegramId ∧ actor.status = .active :=
  ⟨List.mem_of_find?_eq_some linked, by simpa using List.find?_some linked⟩

theorem linkedActor_of_mem (integrity : Integrity db) {actor : Actor} (member : actor ∈ db.actors)
    (own : actor.telegramId = telegramId) (active : actor.status = .active) :
    db.linkedActor telegramId = some actor := by
  obtain ⟨known, linked⟩ : ∃ known, db.linkedActor telegramId = some known :=
    Option.isSome_iff_exists.mp (List.find?_isSome.mpr ⟨actor, member, by simp [own, active]⟩)
  obtain ⟨knownMember, knownOwn, _⟩ := linkedActor_eq_some linked
  rw [linked, integrity.actor_eq knownMember member (knownOwn.trans own.symm)]

theorem mem_activeMemberships {actorId : Id} {membership : Membership} :
    membership ∈ db.activeMemberships actorId ↔
      membership ∈ db.memberships ∧ membership.actorId = actorId ∧ membership.status = .active := by
  simp [Db.activeMemberships]

/-- With at most one membership there is nothing to pick. -/
theorem picked_eq_head? {actorId : Id} (short : (db.activeMemberships actorId).length ≤ 1) :
    db.picked env actorId telegramId = (db.activeMemberships actorId).head? := by
  unfold Db.picked
  cases memberships : db.activeMemberships actorId with
  | nil => simp
  | cons membership rest =>
      rw [memberships, List.length_cons] at short
      obtain rfl : rest = [] := List.length_eq_zero_iff.mp (by omega)
      rw [show [membership].insertionSort membershipLe = [membership] from rfl]
      dsimp only
      rw [List.find?_singleton, List.head?_cons]
      split
      · split <;> rfl
      · rfl

/-- An account without a second membership has a short list of them. -/
theorem SoleMembership.length_le (sole : SoleMembership telegramId db) (integrity : Integrity db)
    {actor : Actor} (linked : db.linkedActor telegramId = some actor) :
    (db.activeMemberships actor.id).length ≤ 1 := by
  obtain ⟨member, own, active⟩ := linkedActor_eq_some linked
  have keys := integrity.keys .memberships
  change (db.memberships.filterMap (some ∘ Membership.id)).Nodup at keys
  rw [List.filterMap_eq_map] at keys
  have distinct : (db.activeMemberships actor.id).Nodup := keys.of_map.filter _
  by_contra long
  obtain ⟨first, second, rest, memberships⟩ :
      ∃ first second rest, db.activeMemberships actor.id = first :: second :: rest := by
    match memberships : db.activeMemberships actor.id with
    | [] => simp [memberships] at long
    | [_] => simp [memberships] at long
    | first :: second :: rest => exact ⟨first, second, rest, rfl⟩
  obtain ⟨firstMember, firstActor, firstActive⟩ :=
    mem_activeMemberships.mp (memberships ▸ List.mem_cons_self)
  obtain ⟨secondMember, secondActor, secondActive⟩ :=
    mem_activeMemberships.mp (memberships ▸ List.mem_cons_of_mem first List.mem_cons_self)
  have same := sole actor member own active first firstMember firstActor firstActive second
    secondMember secondActor secondActive
  rw [memberships, same] at distinct
  exact (List.nodup_cons.mp distinct).1 List.mem_cons_self

/-- The organization of a membership exists. -/
theorem Integrity.organization_of_membership (integrity : Integrity db) {membership : Membership}
    (member : membership ∈ db.memberships) :
    ∃ organization, db.find .organizations membership.organizationId = some organization := by
  have present := integrity.parents .memberships membership member
    ⟨.organizations, membership.organizationId⟩ List.mem_cons_self
  cases found : db.find .organizations membership.organizationId with
  | some organization => exact ⟨organization, rfl⟩
  | none => rw [Db.find_eq_none.mp found] at present; cases present

/-- The resolvers agree where the WebApp picks the membership that is returned first. -/
theorem resolversAgree_of_picked (integrity : Integrity db)
    (same : ∀ actor, db.linkedActor telegramId = some actor →
      db.picked env actor.id telegramId = (db.activeMemberships actor.id).head?) :
    ResolversAgree env telegramId db := by
  intro answers
  have view : (Alone.opened db : Alone Database).view = db := rfl
  have resolved := run_membershipFor answers (.opened db) env telegramId
  have optional := congrArg Prod.fst (run_optionalMembership answers (.opened db) telegramId)
  have context := serve_context answers env telegramId db
  rw [view] at resolved optional
  change ((optionalMembership telegramId).serve answers db).1 = _ at optional
  change ((membershipFor env telegramId).serve answers db).1 = _ at resolved
  rw [optional] at context
  cases linked : db.linkedActor telegramId with
  | none =>
      rw [linked] at resolved optional context
      exact ⟨none, optional, context, _, resolved⟩
  | some actor =>
      rw [linked] at resolved optional context
      dsimp only at resolved optional context
      rw [same actor linked] at resolved
      cases head : (db.activeMemberships actor.id).head? with
      | none =>
          rw [head] at resolved optional context
          exact ⟨none, optional, context, _, resolved⟩
      | some membership =>
          have member := (mem_activeMemberships.mp (List.mem_of_head? head)).1
          obtain ⟨organization, found⟩ := integrity.organization_of_membership member
          rw [head] at resolved optional context
          dsimp only at resolved optional context
          rw [found] at resolved optional context
          exact ⟨some ⟨actor, membership, organization⟩, optional, context, resolved⟩

/-- Where the resolvers agree, the WebApp picks the membership that is returned first. -/
theorem ResolversAgree.picked (agree : ResolversAgree env telegramId db)
    (answers : Answers Database) {actor : Actor} (linked : db.linkedActor telegramId = some actor)
    {membership : Membership}
    (first : (db.activeMemberships actor.id).head? = some membership) :
    db.picked env actor.id telegramId = some membership := by
  obtain ⟨resolved, optional, _, webApp⟩ := agree answers
  have view : (Alone.opened db : Alone Database).view = db := rfl
  have optionally := congrArg Prod.fst (run_optionalMembership answers (.opened db) telegramId)
  have resolves := run_membershipFor answers (.opened db) env telegramId
  rw [view] at optionally resolves
  change ((optionalMembership telegramId).serve answers db).1 = _ at optionally
  change ((membershipFor env telegramId).serve answers db).1 = _ at resolves
  rw [linked] at optionally resolves
  dsimp only at optionally resolves
  rw [first] at optionally
  dsimp only at optionally
  rw [optional] at optionally
  cases found : db.find .organizations membership.organizationId with
  | none => rw [found] at optionally; cases optionally
  | some organization =>
      rw [found] at optionally
      cases optionally
      rw [webApp] at resolves
      cases pick : db.picked env actor.id telegramId with
      | none => rw [pick] at resolves; cases resolves
      | some other =>
          rw [pick] at resolves
          dsimp only at resolves
          cases stored : db.find .organizations other.organizationId with
          | none => rw [stored] at resolves; cases resolves
          | some _ => rw [stored] at resolves; cases resolves; rfl

/-- The membership that comes first in one order of the rows. -/
def Db.leading (db : Db) (membership : Membership) : Db :=
  { db with memberships := membership :: db.memberships.erase membership }

theorem Db.reordered_leading {membership : Membership} (member : membership ∈ db.memberships) :
    Db.Reordered db (db.leading membership) := by
  intro table
  cases table
  case memberships => exact (List.perm_cons_erase member).symm
  all_goals exact .refl _

/-- The resolvers of a Telegram id agree in every order in which rows may be returned exactly
when its account has no second active membership. -/
theorem resolversAgree_iff (integrity : Integrity db) :
    (∀ other, Db.Reordered db other → ResolversAgree env telegramId other) ↔
      SoleMembership telegramId db := by
  constructor
  · intro agree actor member own active first firstMember firstActor firstActive second
      secondMember secondActor secondActive
    have linked := linkedActor_of_mem integrity member own active
    have chosen : ∀ membership ∈ db.memberships, membership.actorId = actor.id →
        membership.status = .active → db.picked env actor.id telegramId = some membership := by
      intro membership present ofActor activeRow
      have reordered := Db.reordered_leading present
      rw [← reordered.picked_eq integrity]
      refine (agree _ reordered).picked Sample.answers
        ((reordered.linkedActor_eq integrity telegramId).trans linked) ?_
      simp [Db.activeMemberships, Db.leading, ofActor, activeRow]
    exact Option.some_inj.mp
      ((chosen first firstMember firstActor firstActive).symm.trans
        (chosen second secondMember secondActor secondActive))
  · intro sole other reordered
    have kept := reordered.integrity integrity
    refine resolversAgree_of_picked kept fun actor linked => picked_eq_head? ?_
    rw [reordered.linkedActor_eq integrity] at linked
    rw [(reordered.activeMemberships_perm actor.id).length_eq]
    exact sole.length_le integrity linked

/-- A member of one organization is resolved alike in every order. -/
theorem resolversAgree_member :
    SoleMembership 10 Sample.workspace ∧
      ∀ other, Db.Reordered Sample.workspace other → ResolversAgree Sample.env 10 other := by
  have sole : SoleMembership 10 Sample.workspace := by
    unfold SoleMembership
    decide
  exact ⟨sole, (resolversAgree_iff Sample.integrity).mpr sole⟩

end

/-- A workspace after its setup by the root identity, which opened a shop below the root
organization and was linked to the shop as well. -/
def Sample.staffed : Db :=
  let founded := ((bootstrapWorkspace Sample.env ⟨1, "Admin"⟩
    ⟨Sample.env.initialSetupToken, "Root", "root"⟩).serve Sample.answers {}).2
  let root := "aaaaaaaaaaaaaaaaaaaaaaaaaaaaaaaaaaaa"
  let opened := ((createOrg Sample.env ⟨"Shop", "shop", some root, some 100, 0⟩).serve
    (Sample.answersFrom 10) founded).2
  let shop := "kkkkkkkkkkkkkkkkkkkkkkkkkkkkkkkkkkkk"
  ((bindActor ⟨1, "Admin", shop, .resellerAdmin⟩).serve (Sample.answersFrom 20) opened).2

/-- When the database returns the membership of the shop first, the bot acts for the shop and
the WebApp for the root organization. -/
theorem resolversAgree_fails :
    ¬∀ other, Db.Reordered Sample.staffed other → ResolversAgree Sample.env 1 other := by
  intro agree
  let reversed : Db := { Sample.staffed with memberships := Sample.staffed.memberships.reverse }
  have reordered : Db.Reordered Sample.staffed reversed :=
    .ofMemberships _ (List.reverse_perm _)
  obtain ⟨linked, optional, _, webApp⟩ := agree reversed reordered Sample.answers
  obtain ⟨bot, app⟩ :
      (((optionalMembership 1).serve Sample.answers reversed).1.map
        (Option.map fun identity => identity.organization.slug)).toOption = some (some "shop") ∧
      (((membershipFor Sample.env 1).serve Sample.answers reversed).1.map
        fun identity => identity.organization.slug).toOption = some "root" := by
    decide +kernel
  rw [optional] at bot
  cases linked with
  | none => cases bot
  | some identity =>
      rw [webApp] at app
      have shop : identity.organization.slug = "shop" := by
        simpa [Except.map, Except.toOption] using bot
      have root : identity.organization.slug = "root" := by
        simpa [Except.map, Except.toOption] using app
      rw [shop] at root
      exact absurd root (by decide)

end ControlPlane
