import ControlPlane.Hierarchy.Edges
import ControlPlane.Library.Dues

/-!
# The agreement about the hierarchy

Sessions write the hierarchy tables only as a whole opening of one organization.
Organizations are never taken away and keep their place, so that what a session
read of the place of a parent holds until it commits. Where the depth of the
hierarchy matters, each opening below a parent comes with a permission to hang
something below it.
-/

namespace ControlPlane

open ReadCommitted Orm Forest

/-! ## Statements about the hierarchy -/

/-- Statements that write the hierarchy tables, and deletions. -/
def marked : Database.Write → Bool
  | .insert .organizations _ | .insert .closures _ | .insert .contracts _ | .delete _ _ => true
  | _ => false

/-- The nodes that a log opens. -/
def openedNodes (log : List Database.Write) : List Node :=
  log.filterMap fun statement =>
    match statement with
    | .insert .organizations row => some row.node
    | _ => none

/-- The closure rows that a log adds. -/
def openedClosures (log : List Database.Write) : List Closure :=
  log.filterMap fun statement =>
    match statement with
    | .insert .closures row => some row
    | _ => none

/-- The contracts that a log adds. -/
def openedContracts (log : List Database.Write) : List Contract :=
  log.filterMap fun statement =>
    match statement with
    | .insert .contracts row => some row
    | _ => none

/-- No row is deleted. -/
def Lasting (log : List Database.Write) : Prop :=
  ∀ table key, .delete table key ∉ log

/-- The hierarchy tables grow by what a log adds. -/
theorem hierarchy_replay {log : List Database.Write} (lasting : Lasting log) (db : Db) :
    Db.nodes (replay (S := Database) log db) = db.nodes ++ openedNodes log ∧
      Db.closures (replay (S := Database) log db) = db.closures ++ openedClosures log ∧
        Db.contracts (replay (S := Database) log db) = db.contracts ++ openedContracts log := by
  induction log generalizing db with
  | nil =>
      exact ⟨(List.append_nil _).symm, (List.append_nil _).symm, (List.append_nil _).symm⟩
  | cons statement log inductionHypothesis =>
      obtain ⟨nodes, closures, contracts⟩ := inductionHypothesis
        (fun table key member => lasting table key (List.mem_cons_of_mem _ member))
        (statement.apply db)
      rw [replay_cons]
      have head : Db.nodes (statement.apply db) = db.nodes ++ openedNodes [statement] ∧
          Db.closures (statement.apply db) = db.closures ++ openedClosures [statement] ∧
            Db.contracts (statement.apply db) = db.contracts ++ openedContracts [statement] := by
        cases statement with
        | insert table row =>
            cases table
            case organizations =>
              exact ⟨List.map_append, (List.append_nil _).symm, (List.append_nil _).symm⟩
            case closures => exact ⟨(List.append_nil _).symm, rfl, (List.append_nil _).symm⟩
            case contracts => exact ⟨(List.append_nil _).symm, (List.append_nil _).symm, rfl⟩
            all_goals
              exact ⟨(List.append_nil _).symm, (List.append_nil _).symm, (List.append_nil _).symm⟩
        | update table key columns =>
            cases table
            case organizations =>
              refine ⟨?_, (List.append_nil _).symm, (List.append_nil _).symm⟩
              refine Eq.trans ?_ (List.append_nil _).symm
              change (db.organizations.map _).map Organization.node = db.organizations.map _
              rw [List.map_map]
              refine List.map_congr_left fun organization _ => ?_
              simp only [Function.comp_apply, Layout.amend]
              split <;> rfl
            case closures => exact columns.elim
            case contracts => exact columns.elim
            all_goals
              exact ⟨(List.append_nil _).symm, (List.append_nil _).symm, (List.append_nil _).symm⟩
        | delete table key => exact absurd List.mem_cons_self (lasting table key)
      have split : openedNodes (statement :: log) = openedNodes [statement] ++ openedNodes log ∧
          openedClosures (statement :: log) = openedClosures [statement] ++ openedClosures log ∧
            openedContracts (statement :: log) =
              openedContracts [statement] ++ openedContracts log :=
        ⟨List.filterMap_append (l := [statement]), List.filterMap_append (l := [statement]),
          List.filterMap_append (l := [statement])⟩
      refine ⟨?_, ?_, ?_⟩
      · exact nodes.trans (by rw [head.1, split.1, List.append_assoc])
      · exact closures.trans (by rw [head.2.1, split.2.1, List.append_assoc])
      · exact contracts.trans (by rw [head.2.2, split.2.2, List.append_assoc])

/-- What a log opens is opened by its marked statements. -/
theorem opened_filter (log : List Database.Write) :
    openedNodes (log.filter marked) = openedNodes log ∧
      openedClosures (log.filter marked) = openedClosures log ∧
        openedContracts (log.filter marked) = openedContracts log := by
  unfold openedNodes openedClosures openedContracts
  refine ⟨?_, ?_, ?_⟩ <;>
  · rw [List.filterMap_filter]
    refine List.filterMap_congr fun statement _ => ?_
    cases statement with
    | insert table row => cases table <;> rfl
    | update table key columns => rfl
    | delete table key => rfl

/-- Only what is marked deletes. -/
theorem lasting_of_filter {log marks : List Database.Write} (lasting : Lasting marks)
    (filtered : log.filter marked = marks) : Lasting log := by
  intro table key member
  refine lasting table key ?_
  rw [← filtered]
  exact List.mem_filter.mpr ⟨member, rfl⟩

namespace Opening

variable (opening : Opening)

theorem lasting : Lasting opening.statements := by
  intro table key member
  simp [statements] at member

/-- What the statements of an opening open. -/
theorem opened_statements :
    openedNodes opening.statements = [opening.organization.node] ∧
      openedClosures opening.statements = opening.closures ∧
        openedContracts opening.statements = opening.contract.toList := by
  have closures : ∀ rows : List Closure,
      openedNodes (rows.map (.insert .closures ·)) = [] ∧
        openedClosures (rows.map (.insert .closures ·)) = rows ∧
          openedContracts (rows.map (.insert .closures ·)) = [] := by
    intro rows
    unfold openedNodes openedClosures openedContracts
    simp [List.filterMap_map]
  have contracts : ∀ rows : List Contract,
      openedNodes (rows.map (.insert .contracts ·)) = [] ∧
        openedClosures (rows.map (.insert .contracts ·)) = [] ∧
          openedContracts (rows.map (.insert .contracts ·)) = rows := by
    intro rows
    unfold openedNodes openedClosures openedContracts
    simp [List.filterMap_map]
  obtain ⟨nodes, own, agreed⟩ := closures opening.closures
  obtain ⟨nodes', own', agreed'⟩ := contracts opening.contract.toList
  unfold statements
  refine ⟨?_, ?_, ?_⟩
  · unfold openedNodes at *
    rw [List.filterMap_append, List.filterMap_cons, nodes, nodes']
    rfl
  · unfold openedClosures at *
    rw [List.filterMap_append, List.filterMap_cons, own, own']
    exact List.append_nil _
  · unfold openedContracts at *
    rw [List.filterMap_append, List.filterMap_cons, agreed, agreed']
    rfl

end Opening

/-! ## Depth -/

section

variable (env : Env) (db : Db)

/-- An organization may have children: it lies above the limits on the depth. -/
def MayHaveChild (id : Id) : Prop :=
  ∀ depth, ∀ root ∈ db.nodes, root.parentId = none → Climbs db.parentOf id depth root.id →
    (depth : Int) + 1 ≤ min env.maxTreeDepth root.maxDepth

/-- No organization lies below the limits on the depth. -/
def DepthBounded : Prop :=
  ∀ node ∈ db.nodes, ∀ depth, ∀ root ∈ db.nodes, root.parentId = none →
    Climbs db.parentOf node.id depth root.id → (depth : Int) ≤ min env.maxTreeDepth root.maxDepth

/-- The organizations that the accounts of some chats may open resellers for lie above the
limits on the depth. -/
def ResellersAllowed (chats : Set Int) : Prop :=
  ∀ actor ∈ db.actors, actor.telegramId ∈ chats →
    ∀ membership ∈ db.memberships, membership.actorId = actor.id →
      membership.status = .active →
      can (effectiveRole env.rootTelegramId actor.telegramId membership.role) .manageResellers =
        true → MayHaveChild env db membership.organizationId

end

/-! ## The agreement -/

/-- How the hierarchy and the memberships evolve. -/
structure Extends (db later : Db) : Prop where
  nodes : ∃ more, later.nodes = db.nodes ++ more
  ancestors : ∀ id ∈ db.nodes.map Node.id, later.ancestors id = db.ancestors id
  memberships : db.memberships ⊆ later.memberships
  actors : ∀ actor ∈ db.actors, ∃ known ∈ later.actors,
    known.id = actor.id ∧ known.telegramId = actor.telegramId

/-- What a transaction may write of the hierarchy: nothing, or one opening. -/
inductive TreeLaw (depth : Prop) (env : Env) (chats : Set Int) (db : Db) :
    List Database.Write → Prop
  | none : TreeLaw depth env chats db []
  | opening (opening : Opening) : opening.Fits db →
      (opening.organization.parentId = Option.none → 0 ≤ opening.organization.maxDepth) →
      (depth → ResellersAllowed env db chats → ∀ parentId,
        opening.organization.parentId = some parentId → MayHaveChild env db parentId) →
      TreeLaw depth env chats db opening.statements

/-- The invariant of the hierarchy, with the limits on its depth for those who ask for them. -/
structure TreeInvariant (depth : Prop) (env : Env) (chats : Set Int) (db : Db) : Prop where
  hierarchy : Hierarchy db
  bounded : depth → ResellersAllowed env db chats → DepthBounded env db

namespace Extends

variable {db later : Db}

theorem refl (db : Db) : Extends db db :=
  ⟨⟨[], (List.append_nil _).symm⟩, fun _ _ => rfl, List.Subset.refl _,
    fun actor member => ⟨actor, member, rfl, rfl⟩⟩

theorem mem (extends' : Extends db later) {id : Id} (present : id ∈ db.nodes.map Node.id) :
    id ∈ later.nodes.map Node.id := by
  obtain ⟨more, nodes⟩ := extends'.nodes
  rw [nodes, List.map_append]
  exact List.mem_append_left _ present

theorem trans {third : Db} (early : Extends db later) (late : Extends later third) :
    Extends db third := by
  obtain ⟨first, firstNodes⟩ := early.nodes
  obtain ⟨second, secondNodes⟩ := late.nodes
  refine ⟨⟨first ++ second, by rw [secondNodes, firstNodes, List.append_assoc]⟩, ?_,
    List.Subset.trans early.memberships late.memberships, ?_⟩
  · exact fun id present => (late.ancestors id (early.mem present)).trans
      (early.ancestors id present)
  · intro actor member
    obtain ⟨known, knownMember, id, telegramId⟩ := early.actors actor member
    obtain ⟨last, lastMember, lastId, lastTelegramId⟩ := late.actors known knownMember
    exact ⟨last, lastMember, lastId.trans id, lastTelegramId.trans telegramId⟩

/-- Organizations keep their parents. -/
theorem parentOf_eq (extends' : Extends db later) {id : Id}
    (present : id ∈ db.nodes.map Node.id) : later.parentOf id = db.parentOf id := by
  obtain ⟨more, nodes⟩ := extends'.nodes
  unfold Db.parentOf
  rw [nodes]
  exact parentIn_append present more

/-- Organizations keep what is above them. -/
theorem climbs (extends' : Extends db later) {id ancestor : Id} {depth : Nat}
    (climbs : Climbs db.parentOf id depth ancestor) : Climbs later.parentOf id depth ancestor := by
  refine climbs.mono fun node above step => ?_
  obtain ⟨row, member, own, _⟩ := mem_of_parentIn step
  rw [extends'.parentOf_eq (own ▸ List.mem_map_of_mem member)]
  exact step

/-- Nothing new comes to lie above an organization. -/
theorem climbs_back (extends' : Extends db later) (integrity : Integrity db) {id ancestor : Id}
    {depth : Nat} (climbs : Climbs later.parentOf id depth ancestor)
    (present : id ∈ db.nodes.map Node.id) : Climbs db.parentOf id depth ancestor := by
  induction climbs with
  | here => exact .here _
  | up step _ inductionHypothesis =>
      rw [extends'.parentOf_eq present] at step
      exact .up step (inductionHypothesis (integrity.parent_mem step))

end Extends

/-- A node is known by its id. -/
theorem Integrity.node_eq {db : Db} (integrity : Integrity db) {first second : Node}
    (firstMember : first ∈ db.nodes) (secondMember : second ∈ db.nodes)
    (same : first.id = second.id) : first = second := by
  obtain ⟨left, leftMember, rfl⟩ := List.mem_map.mp firstMember
  obtain ⟨right, rightMember, rfl⟩ := List.mem_map.mp secondMember
  rw [integrity.eq_of_key .organizations leftMember rfl rightMember
    (congrArg some (same : left.id = right.id).symm)]

section

variable {db later : Db} {env : Env} {chats : Set Int}

theorem Extends.node_mem (extends' : Extends db later) {node : Node} (member : node ∈ db.nodes) :
    node ∈ later.nodes := by
  obtain ⟨more, nodes⟩ := extends'.nodes
  rw [nodes]
  exact List.mem_append_left _ member

/-- A permission to have children lasts. -/
theorem MayHaveChild.extend {id : Id} (allowed : MayHaveChild env db id)
    (extends' : Extends db later) (integrity : Integrity db) (lastly : Integrity later)
    (present : id ∈ db.nodes.map Node.id) : MayHaveChild env later id := by
  intro depth root rootMember top climbs
  have before := extends'.climbs_back integrity climbs present
  obtain ⟨known, knownMember, same⟩ := List.mem_map.mp (integrity.climbs_mem before present)
  have equal := lastly.node_eq (extends'.node_mem knownMember) rootMember same
  subst equal
  exact allowed depth known knownMember top before

/-- A permission to have children was there as soon as the organization was. -/
theorem MayHaveChild.restrict {id : Id} (allowed : MayHaveChild env later id)
    (extends' : Extends db later) : MayHaveChild env db id :=
  fun depth root member top climbs =>
    allowed depth root (extends'.node_mem member) top (extends'.climbs climbs)

/-- Where resellers are allowed, they were allowed before. -/
theorem ResellersAllowed.restrict (allowed : ResellersAllowed env later chats)
    (extends' : Extends db later) : ResellersAllowed env db chats := by
  intro actor member chat membership present own active permitted
  obtain ⟨known, knownMember, id, telegramId⟩ := extends'.actors actor member
  refine (allowed known knownMember (telegramId ▸ chat) membership
    (extends'.memberships present) (own.trans id.symm) active ?_).restrict extends'
  rw [telegramId]
  exact permitted

/-- Memberships and accounts outlast what is not deleted. -/
theorem lasting_replay {log : List Database.Write} (lasting : Lasting log) (db : Db) :
    db.memberships ⊆ Db.memberships (replay (S := Database) log db) ∧
      ∀ actor ∈ db.actors, ∃ known ∈ Db.actors (replay (S := Database) log db),
        known.id = actor.id ∧ known.telegramId = actor.telegramId := by
  induction log generalizing db with
  | nil => exact ⟨List.Subset.refl _, fun actor member => ⟨actor, member, rfl, rfl⟩⟩
  | cons statement log inductionHypothesis =>
      obtain ⟨memberships, actors⟩ := inductionHypothesis
        (fun table key member => lasting table key (List.mem_cons_of_mem _ member))
        (statement.apply db)
      rw [replay_cons]
      have head : db.memberships ⊆ Db.memberships (statement.apply db) ∧
          ∀ actor ∈ db.actors, ∃ known ∈ Db.actors (statement.apply db),
            known.id = actor.id ∧ known.telegramId = actor.telegramId := by
        have kept : ∀ actor ∈ db.actors, ∃ known ∈ db.actors,
            known.id = actor.id ∧ known.telegramId = actor.telegramId :=
          fun actor member => ⟨actor, member, rfl, rfl⟩
        cases statement with
        | insert table row =>
            cases table
            case memberships => exact ⟨List.subset_append_left _ _, kept⟩
            case actors =>
              exact ⟨List.Subset.refl _, fun actor member =>
                ⟨actor, List.mem_append_left _ member, rfl, rfl⟩⟩
            all_goals exact ⟨List.Subset.refl _, kept⟩
        | update table key columns =>
            cases table
            case memberships => exact columns.elim
            case actors =>
              refine ⟨List.Subset.refl _, fun actor member => ?_⟩
              refine ⟨@Layout.amend layout .actors key columns actor,
                List.mem_map_of_mem member, ?_⟩
              unfold Layout.amend
              split <;> exact ⟨rfl, rfl⟩
            all_goals exact ⟨List.Subset.refl _, kept⟩
        | delete table key => exact absurd List.mem_cons_self (lasting table key)
      refine ⟨List.Subset.trans head.1 memberships, fun actor member => ?_⟩
      obtain ⟨known, knownMember, id, telegramId⟩ := head.2 actor member
      obtain ⟨last, lastMember, lastId, lastTelegramId⟩ := actors known knownMember
      exact ⟨last, lastMember, lastId.trans id, lastTelegramId.trans telegramId⟩

variable {depth : Prop} {log : List Database.Write}

/-- What a lawful log does to the hierarchy tables. -/
theorem TreeLaw.cases_replay (lawful : TreeLaw depth env chats db (log.filter marked)) :
    Lasting log ∧
      ((Db.nodes (replay (S := Database) log db) = db.nodes ∧
          Db.closures (replay (S := Database) log db) = db.closures ∧
            Db.contracts (replay (S := Database) log db) = db.contracts) ∨
        ∃ opening : Opening, opening.Fits db ∧
          opening.Grows db (replay (S := Database) log db) ∧
            (opening.organization.parentId = Option.none → 0 ≤ opening.organization.maxDepth) ∧
              (depth → ResellersAllowed env db chats → ∀ parentId,
                opening.organization.parentId = some parentId → MayHaveChild env db parentId)) := by
  have opened := opened_filter log
  generalize filtered : log.filter marked = marks at lawful opened
  cases lawful with
  | none =>
      have lasting := lasting_of_filter (fun _ _ => List.not_mem_nil) filtered
      obtain ⟨nodes, closures, contracts⟩ := hierarchy_replay lasting db
      refine ⟨lasting, .inl ⟨?_, ?_, ?_⟩⟩
      · rw [nodes, ← opened.1]
        exact List.append_nil _
      · rw [closures, ← opened.2.1]
        exact List.append_nil _
      · rw [contracts, ← opened.2.2]
        exact List.append_nil _
  | opening opening fits rooted permitted =>
      have lasting := lasting_of_filter opening.lasting filtered
      obtain ⟨nodes, closures, contracts⟩ := hierarchy_replay lasting db
      obtain ⟨ownNodes, ownClosures, ownContracts⟩ := opening.opened_statements
      refine ⟨lasting, .inr ⟨opening, fits, ⟨?_, ?_, ?_⟩, rooted, permitted⟩⟩
      · rw [nodes, ← opened.1, ownNodes]
      · rw [closures, ← opened.2.1, ownClosures]
      · rw [contracts, ← opened.2.2, ownContracts]

/-- Lawful commits extend the hierarchy. -/
theorem TreeLaw.extends (lawful : TreeLaw depth env chats db (log.filter marked))
    (integrity : Integrity (replay (S := Database) log db)) :
    Extends db (replay (S := Database) log db) := by
  obtain ⟨lasting, effect⟩ := lawful.cases_replay
  obtain ⟨memberships, actors⟩ := lasting_replay lasting db
  rcases effect with ⟨nodes, closures, _⟩ | ⟨opening, fits, grows, _⟩
  · refine ⟨⟨[], nodes.trans (List.append_nil _).symm⟩, fun id _ => ?_, memberships, actors⟩
    unfold Db.ancestors
    rw [closures]
  · refine ⟨⟨_, grows.nodes⟩, fun id present => ?_, memberships, actors⟩
    have different : opening.organization.id ≠ id := fun same =>
      grows.fresh integrity (same ▸ present)
    unfold Db.ancestors
    rw [grows.closures, List.filter_append, List.append_right_eq_self, List.filter_eq_nil_iff]
    intro row member
    rcases List.mem_cons.mp member with rfl | above
    · simpa using different
    · obtain ⟨edge, _, rfl⟩ := List.mem_map.mp above
      simpa using different

/-- Lawful commits keep the invariant of the hierarchy. -/
theorem TreeLaw.invariant (nonnegative : depth → 0 ≤ env.maxTreeDepth)
    (lawful : TreeLaw depth env chats db (log.filter marked))
    (invariant : TreeInvariant depth env chats db)
    (integrity : Integrity (replay (S := Database) log db)) :
    TreeInvariant depth env chats (replay (S := Database) log db) := by
  have extends' := lawful.extends integrity
  obtain ⟨_, ⟨nodes, closures, contracts⟩ | ⟨opening, fits, grows, rooted, permitted⟩⟩ :=
    lawful.cases_replay
  · refine ⟨invariant.hierarchy.congr nodes closures contracts integrity, fun asked allowed => ?_⟩
    have before := invariant.bounded asked (allowed.restrict extends')
    unfold DepthBounded Db.parentOf at before ⊢
    rwa [nodes]
  · refine ⟨invariant.hierarchy.open fits grows integrity, fun asked allowed => ?_⟩
    have before := allowed.restrict extends'
    have sound := invariant.hierarchy.integrity
    have newest : opening.organization.node ∈
        Db.nodes (replay (S := Database) log db) := by
      rw [grows.nodes]
      exact List.mem_append_right _ List.mem_cons_self
    intro node member depth root rootMember top climbs
    rw [grows.nodes, List.mem_append, List.mem_singleton] at member
    rcases member with known | rfl
    · have present := List.mem_map_of_mem (f := Node.id) known
      have back := extends'.climbs_back sound climbs present
      obtain ⟨other, otherMember, same⟩ := List.mem_map.mp (sound.climbs_mem back present)
      obtain rfl := integrity.node_eq (extends'.node_mem otherMember) rootMember same
      exact invariant.bounded asked before node known depth other otherMember top back
    · have fromAbove := grows.parentOf_new integrity
      change Climbs _ opening.organization.id _ _ at climbs
      generalize ends : root.id = last at climbs
      cases climbs with
      | here =>
          obtain rfl := integrity.node_eq newest rootMember ends.symm
          have room : 0 ≤ opening.organization.node.maxDepth := rooted top
          have limit := nonnegative asked
          omega
      | @up _ above _ steps step rest =>
          rw [fromAbove] at step
          have allowedHere := (permitted asked before above step).extend extends' sound integrity
            (fits.contract above step).1
          exact_mod_cast allowedHere steps root rootMember top (ends ▸ rest)

end

/-- The agreement about the hierarchy. -/
def treeAgreement (depth : Prop) (env : Env) (chats : Set Int)
    (nonnegative : depth → 0 ≤ env.maxTreeDepth) : Agreement Database where
  inv := TreeInvariant depth env chats
  le := Extends
  commit _ log db := acceptsAll (S := Database) log db = true ∧
    TreeLaw depth env chats db (log.filter marked)
  le_refl := Extends.refl
  le_trans := Extends.trans
  inv_replay invariant committed _ :=
    committed.2.invariant nonnegative invariant
      (Layout.Integrity.replay invariant.hierarchy.integrity committed.1)

section

variable {depth : Prop} {env : Env} {chats : Set Int} {nonnegative : depth → 0 ≤ env.maxTreeDepth}

instance : (treeAgreement depth env chats nonnegative).Shared where
  le_replay invariant committed _ :=
    committed.2.extends (Layout.Integrity.replay invariant.hierarchy.integrity committed.1)

instance : (treeAgreement depth env chats nonnegative).Unrestricted := ⟨id⟩

instance : OffPanel (treeAgreement depth env chats nonnegative) where
  asks _ _ := trivial

/-- Statements that leave the hierarchy alone. -/
def Unmarked (statement : Database.Write) : Prop := marked statement = false

/-- What is recorded may be flushed to an opening. -/
def treeLaw (depth : Prop) (env : Env) (chats : Set Int) : Law Database :=
  fun _ log db => TreeLaw depth env chats db (log.filter marked)

/-- The session has recorded these marked statements. -/
def opens (marks : List Database.Write) : Law Database := fun _ log _ => log.filter marked = marks

/-- The session has not begun an opening. -/
abbrev unopened : Law Database := opens []

/-- An unmarked statement does not count among the marked ones. -/
theorem filter_marked_insert (first last : List Database.Write) {statement : Database.Write}
    (unmarked : Unmarked statement) :
    (first ++ statement :: last).filter marked = (first ++ last).filter marked := by
  rw [List.filter_append, List.filter_append, List.filter_cons_of_neg (by simp [show marked
    statement = false from unmarked])]

instance : (treeLaw depth env chats).Tolerates Unmarked where
  held _ lawful := lawful
  benign unmarked lawful := by
    unfold treeLaw
    rwa [filter_marked_insert _ _ unmarked]

instance : (treeAgreement depth env chats nonnegative).Sanctions Unmarked
    (treeLaw depth env chats) where
  nil _ := .none
  commit _ accepted lawful := ⟨accepted, lawful⟩

instance (marks : List Database.Write) : (opens marks).Tolerates Unmarked where
  held _ lawful := lawful
  benign unmarked lawful := (filter_marked_insert _ _ unmarked).trans lawful

instance : (treeAgreement depth env chats nonnegative).Sanctions Unmarked unopened where
  nil _ := rfl
  commit _ accepted lawful := ⟨accepted, lawful ▸ .none⟩

end

end ControlPlane
