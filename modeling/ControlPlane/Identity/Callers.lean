import ControlPlane.Bot.Actions
import ControlPlane.Hierarchy.Tree

/-!
# What a caller acts with

Resolving a caller only reads. Accounts, memberships and organizations stay, so
what was found about the caller holds until the session ends.
-/

namespace ControlPlane

open ReadCommitted Orm

/-- Organizations, memberships and accounts that were there are still there. -/
structure Peopled (db later : Db) : Prop where
  nodes : db.nodes ⊆ later.nodes
  memberships : db.memberships ⊆ later.memberships
  actors : ∀ actor ∈ db.actors, ∃ known ∈ later.actors,
    known.id = actor.id ∧ known.telegramId = actor.telegramId

/-- An agreement under which organizations, memberships and accounts stay. -/
class Populated (A : Agreement Database) : Prop where
  stay : ∀ {db later}, A.le db later → Peopled db later

/-- A Telegram account acts for an organization with a role. -/
structure Acts (db : Db) (telegramId : Int) (actorId organizationId : Id) (role : Role) : Prop where
  node : ∃ node ∈ db.nodes, node.id = organizationId
  actor : ∃ actor ∈ db.actors, actor.id = actorId ∧ actor.telegramId = telegramId
  membership : ∃ membership ∈ db.memberships, membership.actorId = actorId ∧
    membership.status = .active ∧ membership.organizationId = organizationId ∧
      membership.role = role

namespace Peopled

variable {db later : Db}

theorem refl (db : Db) : Peopled db db :=
  ⟨List.Subset.refl _, List.Subset.refl _, fun actor member => ⟨actor, member, rfl, rfl⟩⟩

theorem trans {third : Db} (early : Peopled db later) (late : Peopled later third) :
    Peopled db third where
  nodes := List.Subset.trans early.nodes late.nodes
  memberships := List.Subset.trans early.memberships late.memberships
  actors actor member := by
    obtain ⟨known, knownMember, id, telegramId⟩ := early.actors actor member
    obtain ⟨last, lastMember, lastId, lastTelegramId⟩ := late.actors known knownMember
    exact ⟨last, lastMember, lastId.trans id, lastTelegramId.trans telegramId⟩

/-- An account keeps its id and its Telegram id. -/
theorem actor {actorId : Id} {telegramId : Int} (peopled : Peopled db later)
    (known : ∃ actor ∈ db.actors, actor.id = actorId ∧ actor.telegramId = telegramId) :
    ∃ actor ∈ later.actors, actor.id = actorId ∧ actor.telegramId = telegramId := by
  obtain ⟨actor, member, rfl, rfl⟩ := known
  exact peopled.actors actor member

end Peopled

/-- Whoever acts for an organization acts for it later. -/
theorem Acts.stay {db later : Db} {telegramId : Int} {actorId organizationId : Id} {role : Role}
    (acts : Acts db telegramId actorId organizationId role) (peopled : Peopled db later) :
    Acts later telegramId actorId organizationId role where
  node := acts.node.imp fun _ found => ⟨peopled.nodes found.1, found.2⟩
  actor := peopled.actor acts.actor
  membership := acts.membership.imp fun _ found => ⟨peopled.memberships found.1, found.2⟩

/-- Whoever acts for an organization acts for one that is there. -/
theorem Acts.present {db : Db} {telegramId : Int} {actorId organizationId : Id} {role : Role}
    (acts : Acts db telegramId actorId organizationId role) :
    organizationId ∈ db.nodes.map Node.id := List.mem_map.mpr acts.node

/-- The membership that is picked is among the rows. -/
theorem mem_picked {env : Env} {telegramId : Int} {rows : List Membership}
    {membership : Membership} (root : Id)
    (picked : (if env.rootTelegramId = some telegramId then
      ((rows.insertionSort membershipLe).find? fun row => row.organizationId = root).or
        (rows.insertionSort membershipLe).head?
      else (rows.insertionSort membershipLe).head?) = some membership) : membership ∈ rows := by
  rw [← List.mem_insertionSort membershipLe]
  split at picked
  · rcases Option.or_eq_some_iff.mp picked with found | ⟨_, first⟩
    · exact List.mem_of_find?_eq_some found
    · exact List.mem_of_head? first
  · exact List.mem_of_head? picked

/-- A Telegram account may do something for an organization. -/
def MayAct (env : Env) (db : Db) (telegramId : Int) (permission : Permission)
    (actorId organizationId : Id) : Prop :=
  ∃ role, Acts db telegramId actorId organizationId role ∧
    can (effectiveRole env.rootTelegramId telegramId role) permission = true

/-- Whoever may act for an organization acts for one that is there. -/
theorem MayAct.present {env : Env} {db : Db} {telegramId : Int} {permission : Permission}
    {actorId organizationId : Id}
    (may : MayAct env db telegramId permission actorId organizationId) :
    organizationId ∈ db.nodes.map Node.id :=
  have ⟨_, acts, _⟩ := may
  acts.present

/-- Whoever may act may act later. -/
theorem MayAct.stay {env : Env} {db later : Db} {telegramId : Int} {permission : Permission}
    {actorId organizationId : Id} (may : MayAct env db telegramId permission actorId organizationId)
    (peopled : Peopled db later) :
    MayAct env later telegramId permission actorId organizationId := by
  obtain ⟨role, acts, allowed⟩ := may
  exact ⟨role, acts.stay peopled, allowed⟩

theorem wp_scalars_bind (A : Agreement Database) {post : Except Failure β → Point Database → Prop}
    {point : Point Database} (table : Table) (condition : table.Row → Bool)
    (rest : List table.Row → Op β) :
    wp A (scalars table condition >>= rest) post point ↔
      ∀ later, A.Rely point.held point.store later →
        wp A (rest ((Db.rows (replay point.log later) table).filter condition)) post
          { point with store := later } := Iff.rfl

/-- Closing a session discards what it did not commit. -/
theorem wp_withSession_closing {A : Agreement Database} {body : Op α}
    {post : Except Failure α → Point Database → Prop} {point : Point Database}
    (inner : body.wp A (fun result later => ∀ last, A.Rely later.held later.store last →
      post result ⟨[], [], [], last⟩) point) : (withSession body).wp A post point := by
  unfold withSession
  rw [wp_bind]
  refine (wp_tryCatch _ _ _).mpr (wp_mono _ inner fun result later closing => ?_)
  cases result with
  | ok value => exact closing
  | error exception => exact closing

section

variable {A : Agreement Database} [populated : Populated A] {env : Env} {store : Db}

/-- A session that has done nothing but read. -/
structure Clean (A : Agreement Database) (point : Point Database) : Prop where
  fresh : point = ⟨[], [], [], point.store⟩
  inv : A.inv point.store

/-- What the bot resolves of a chat. -/
theorem wp_optionalMembership (chatId : Int) :
    (optionalMembership chatId).wp A (fun result later => Clean A later ∧
      ∀ identity, result = .ok (some identity) →
        Acts later.store chatId identity.actor.id identity.organization.id
          identity.membership.role) ⟨[], [], [], store⟩ := by
  unfold optionalMembership
  rw [wp_scalar_bind]
  intro first firstRely
  rw [wp_branch]
  refine ⟨fun _ => ⟨⟨rfl, firstRely.inv⟩, by rintro _ ⟨⟩⟩, fun actor linked => ?_⟩
  have actorMember : actor ∈ Db.actors first := List.mem_of_find?_eq_some linked
  have chat := List.find?_some linked
  rw [wp_scalar_bind]
  intro second secondRely
  rw [wp_branch]
  refine ⟨fun _ => ⟨⟨rfl, secondRely.inv⟩, by rintro _ ⟨⟩⟩, fun membership staffed => ?_⟩
  have membershipMember : membership ∈ Db.memberships second := List.mem_of_find?_eq_some staffed
  have own := List.find?_some staffed
  rw [wp_get_bind]
  intro third thirdRely
  rw [wp_found_bind]
  refine ⟨fun organization stored => ?_, fun _ => ⟨⟨rfl, thirdRely.inv⟩, by rintro _ ⟨⟩⟩⟩
  refine ⟨⟨rfl, thirdRely.inv⟩, ?_⟩
  rintro _ ⟨⟩
  obtain ⟨member, id⟩ := Db.find_mem stored
  simp only [decide_eq_true_eq] at own chat
  have late := populated.stay thirdRely.le
  exact ⟨⟨_, node_mem member, rfl⟩,
    ((populated.stay secondRely.le).trans late).actor ⟨actor, actorMember, rfl, chat.1⟩,
    membership, late.memberships membershipMember, own.1, own.2, (Option.some.inj id).symm, rfl⟩

omit populated in
/-- The membership that is picked is one of the account. -/
theorem wp_pickMembership_bind {post : Except Failure β → Point Database → Prop} (actorId : Id)
    (telegramId : Int) (rest : Option Membership → Op β)
    (next : ∀ picked later, A.Rely [] store later →
      (∀ membership, picked = some membership → membership ∈ Db.memberships later ∧
        membership.actorId = actorId ∧ membership.status = .active) →
        (rest picked).wp A post ⟨[], [], [], later⟩) :
    (pickMembership env actorId telegramId >>= rest).wp A post ⟨[], [], [], store⟩ := by
  unfold pickMembership setting
  rw [wp_bind, wp_bind, wp_get_bind]
  intro first firstRely
  rw [wp_pure]
  dsimp only
  rw [wp_scalars_bind]
  intro second secondRely
  have among : ∀ {membership : Membership}, membership ∈ (Db.rows second .memberships).filter
      (fun row => row.actorId = actorId ∧ row.status = .active) →
        membership ∈ Db.memberships second ∧ membership.actorId = actorId ∧
          membership.status = .active := by
    intro membership member
    simpa using List.mem_filter.mp member
  have rely := firstRely.trans secondRely
  by_cases root : env.rootTelegramId = some telegramId
  · rw [if_pos root, wp_pure]
    exact next _ _ rely fun membership picked =>
      among (mem_picked _ ((if_pos root).trans picked))
  · rw [if_neg root, wp_pure]
    exact next _ _ rely fun membership picked =>
      among (mem_picked "" ((if_neg root).trans picked))

/-- What the WebApp resolves of a caller. -/
theorem wp_membershipFor (telegramId : Int) :
    (membershipFor env telegramId).wp A (fun result later => Clean A later ∧
      ∀ identity, result = .ok identity →
        Acts later.store telegramId identity.actor.id identity.organization.id
          identity.membership.role) ⟨[], [], [], store⟩ := by
  unfold membershipFor
  rw [wp_scalar_bind]
  intro first firstRely
  rw [wp_found_bind]
  refine ⟨fun actor linked => ?_, fun _ => ⟨⟨rfl, firstRely.inv⟩, by rintro _ ⟨⟩⟩⟩
  have actorMember : actor ∈ Db.actors first := List.mem_of_find?_eq_some linked
  have chat := List.find?_some linked
  refine wp_pickMembership_bind actor.id telegramId _ fun picked second secondRely own => ?_
  rw [wp_found_bind]
  refine ⟨fun membership staffed => ?_, fun _ => ⟨⟨rfl, secondRely.inv⟩, by rintro _ ⟨⟩⟩⟩
  obtain ⟨membershipMember, actorId, active⟩ := own membership staffed
  rw [wp_get_bind]
  intro third thirdRely
  rw [wp_found_bind]
  refine ⟨fun organization stored => ?_, fun _ => ⟨⟨rfl, thirdRely.inv⟩, by rintro _ ⟨⟩⟩⟩
  refine ⟨⟨rfl, thirdRely.inv⟩, ?_⟩
  rintro _ ⟨⟩
  obtain ⟨member, id⟩ := Db.find_mem stored
  simp only [decide_eq_true_eq] at chat
  have late := populated.stay thirdRely.le
  exact ⟨⟨_, node_mem member, rfl⟩,
    ((populated.stay secondRely.le).trans late).actor ⟨actor, actorMember, rfl, chat.1⟩,
    membership, late.memberships membershipMember, actorId, active, (Option.some.inj id).symm, rfl⟩

/-- A caller of the WebApp who holds a permission. -/
theorem wp_manager (telegramId : Int) (permission : Permission) :
    (manager env telegramId permission).wp A (fun result later => Clean A later ∧
      ∀ identity, result = .ok identity →
        MayAct env later.store telegramId permission identity.actor.id identity.organization.id)
      ⟨[], [], [], store⟩ := by
  unfold manager
  refine wp_seq _ (wp_membershipFor telegramId) ?_ fun _ _ stopped => ⟨stopped.1, by rintro _ ⟨⟩⟩
  rintro identity later ⟨clean, acts⟩
  rw [wp_require_bind]
  refine ⟨fun allowed => ⟨clean, ?_⟩, fun _ => ⟨clean, by rintro _ ⟨⟩⟩⟩
  rintro _ ⟨⟩
  exact ⟨_, acts identity rfl, allowed⟩

/-- What a chat acts with. -/
theorem wp_context (chatId : Int) :
    (Bot.context env chatId).wp A (fun result later => Clean A later ∧
      ∀ caller, result = .ok (some caller) → ∃ role,
        Acts later.store chatId caller.actorId caller.organizationId role ∧
          caller.role = effectiveRole env.rootTelegramId chatId role) ⟨[], [], [], store⟩ := by
  unfold Bot.context
  refine wp_withSession_closing (wp_seq _ (wp_optionalMembership chatId) ?_ ?_)
  · rintro linked later ⟨clean, acts⟩ last rely
    refine ⟨⟨rfl, rely.inv⟩, fun caller found => ?_⟩
    cases linked with
    | none => cases found
    | some identity =>
        cases found
        exact ⟨_, (acts identity rfl).stay (populated.stay rely.le), rfl⟩
  · rintro exception later _ last rely
    exact ⟨⟨rfl, rely.inv⟩, by rintro _ ⟨⟩⟩

/-- What a linked chat acts with. -/
theorem wp_requireContext (chatId : Int) :
    (Bot.requireContext env chatId).wp A (fun result later => Clean A later ∧
      ∀ caller, result = .ok caller → ∃ role,
        Acts later.store chatId caller.actorId caller.organizationId role ∧
          caller.role = effectiveRole env.rootTelegramId chatId role) ⟨[], [], [], store⟩ := by
  unfold Bot.requireContext
  refine wp_seq _ (wp_context chatId) ?_ fun _ _ stopped => ⟨stopped.1, by rintro _ ⟨⟩⟩
  rintro value later ⟨clean, acts⟩
  rw [wp_found]
  refine ⟨fun caller present => ⟨clean, ?_⟩, fun _ => ⟨clean, by rintro _ ⟨⟩⟩⟩
  rintro _ ⟨⟩
  exact acts caller (congrArg Except.ok present)

/-- What a chat acts with, when it holds a permission. -/
theorem wp_permitted (chatId : Int) (permission : Permission) :
    (Bot.permitted env chatId permission).wp A (fun result later => Clean A later ∧
      ∀ caller, result = .ok caller →
        MayAct env later.store chatId permission caller.actorId caller.organizationId)
      ⟨[], [], [], store⟩ := by
  unfold Bot.permitted
  refine wp_seq _ (wp_requireContext chatId) ?_ fun _ _ stopped => ⟨stopped.1, by rintro _ ⟨⟩⟩
  rintro caller later ⟨clean, acts⟩
  rw [wp_require_bind]
  refine ⟨fun allowed => ⟨clean, ?_⟩, fun _ => ⟨clean, by rintro _ ⟨⟩⟩⟩
  rintro _ ⟨⟩
  obtain ⟨role, acting, same⟩ := acts caller rfl
  exact ⟨role, acting, same ▸ allowed⟩

end

end ControlPlane
