import ControlPlane.Hierarchy.Agreement
import ControlPlane.Identity.Callers
import ControlPlane.Sustaining

/-!
# Sessions that open organizations

Each of the operations that create an organization resolves a parent that is
there, and then writes one opening below it: the organization, its closure rows
from those of the parent, and its contract.
-/

namespace ControlPlane

open ReadCommitted Orm Forest

set_option synthInstance.maxSize 100000

variable {depth : Prop} {env : Env} {chats : Set Int} {nonnegative : depth → 0 ≤ env.maxTreeDepth}

instance : Admitted Unmarked .accounts := ⟨fun _ => rfl, fun _ _ => rfl⟩
instance : Admitted Unmarked .transactions := ⟨fun _ => rfl, fun _ _ => rfl⟩
instance : Admitted Unmarked .entries := ⟨fun _ => rfl, fun _ _ => rfl⟩
instance : Admitted Unmarked .bindings := ⟨fun _ => rfl, fun _ _ => rfl⟩
instance : Admitted Unmarked .outbox := ⟨fun _ => rfl, fun _ _ => rfl⟩
instance : Admitted Unmarked .actors := ⟨fun _ => rfl, fun _ _ => rfl⟩
instance : Admitted Unmarked .memberships := ⟨fun _ => rfl, fun _ _ => rfl⟩
instance : Admitted Unmarked .orders := ⟨fun _ => rfl, fun _ _ => rfl⟩
instance : Admitted Unmarked .settings := ⟨fun _ => rfl, fun _ _ => rfl⟩
instance : Admitted Unmarked .auditLogs := ⟨fun _ => rfl, fun _ _ => rfl⟩

/-- Suspending an organization leaves it at its place. -/
instance (key : Id) (columns : OrganizationColumns) :
    Sustains (treeAgreement depth env chats nonnegative) Unmarked (treeLaw depth env chats)
      (assign .organizations key columns) :=
  Sustains.add rfl

instance (env' : Env) (identity : TelegramIdentity) (organizationId : Id) :
    Sustains (treeAgreement depth env chats nonnegative) Unmarked (treeLaw depth env chats)
      (adminSetResellerStatus env' identity organizationId) := by
  unfold adminSetResellerStatus
  infer_instance

instance (data : ActorBindIn) :
    Sustains (treeAgreement depth env chats nonnegative) Unmarked (treeLaw depth env chats)
      (bindActor data) := by
  unfold bindActor
  infer_instance

/-- Organizations, memberships and accounts stay. -/
instance : Populated (treeAgreement depth env chats nonnegative) where
  stay le := ⟨by
    obtain ⟨more, same⟩ := le.nodes
    rw [same]
    exact List.subset_append_left _ _, le.memberships, le.actors⟩

/-! ## Places in the hierarchy -/

/-- An organization that is there, and that may have children where depth matters. -/
structure Place (depth : Prop) (env : Env) (chats : Set Int) (db : Db) (id : Id) : Prop where
  present : id ∈ db.nodes.map Node.id
  permitted : depth → ResellersAllowed env db chats → MayHaveChild env db id

theorem Place.extend {db later : Db} {id : Id} (place : Place depth env chats db id)
    (extends' : Extends db later) (integrity : Integrity db) (lastly : Integrity later) :
    Place depth env chats later id :=
  ⟨extends'.mem place.present, fun asked allowed =>
    (place.permitted asked (allowed.restrict extends')).extend extends' integrity lastly
      place.present⟩

section

variable {point : Point Database}

/-- A place lasts while other sessions commit. -/
theorem Place.rely {id : Id} {held : List (Held Database)} {db later : Db}
    (place : Place depth env chats db id) (invariant : TreeInvariant depth env chats db)
    (rely : (treeAgreement depth env chats nonnegative).Rely held db later) :
    Place depth env chats later id :=
  place.extend rely.le invariant.hierarchy.integrity rely.inv.hierarchy.integrity

/-- A session that has written no marked statement but organizations sees the closure table
as it is committed. -/
theorem closures_view {log : List Database.Write} {organization : Organization}
    (filtered : log.filter marked = [.insert .organizations organization]) (db : Db) :
    Db.closures (replay (S := Database) log db) = db.closures := by
  have lasting : Lasting log := lasting_of_filter (by
    intro table key member
    simp at member) filtered
  rw [(hierarchy_replay lasting db).2.1, ← (opened_filter log).2.1, filtered]
  exact List.append_nil _

/-- A session without marked statements sees the hierarchy as it is committed. -/
theorem nodes_view {log : List Database.Write} (filtered : log.filter marked = []) (db : Db) :
    Db.nodes (replay (S := Database) log db) = db.nodes ∧
      Db.closures (replay (S := Database) log db) = db.closures := by
  have lasting : Lasting log := lasting_of_filter (fun _ _ => List.not_mem_nil) filtered
  rw [(hierarchy_replay lasting db).1, (hierarchy_replay lasting db).2.1, ← (opened_filter log).1,
    ← (opened_filter log).2.1, filtered]
  exact ⟨List.append_nil _, List.append_nil _⟩

/-- Recording one row for each element of a list. -/
theorem wp_forEach_insert_bind (A : Agreement Database)
    {post : Except Failure β → Point Database → Prop} (items : List α) (table : Table)
    (row : α → table.Row) (rest : Unit → Op β) :
    wp A ((forEach items fun item => insert table (row item)) >>= rest) post point ↔
      wp A (rest ()) post { point with
        pending := point.pending ++ items.map fun item => .insert table (row item) } := by
  induction items generalizing point with
  | nil =>
      rw [List.map_nil, List.append_nil]
      rfl
  | cons item items inductionHypothesis =>
      have step : wp A ((forEach (item :: items) fun item => insert table (row item)) >>= rest)
          post point ↔ wp A ((forEach items fun item => insert table (row item)) >>= rest) post
            { point with pending := point.pending ++ [.insert table (row item)] } := Iff.rfl
      rw [step, inductionHypothesis, List.append_assoc]
      rfl

/-- Recording one more marked statement. -/
theorem Due.mark {A : Agreement Database} {marks : List Database.Write}
    (due : Due A (opens marks) point) {row : Database.Write} (isMarked : marked row = true) :
    Due A (opens (marks ++ [row])) { point with pending := point.pending ++ [row] } :=
  due.add fun later _ kept => by
    unfold opens at *
    rw [← List.append_assoc, List.filter_append, kept, List.filter_cons_of_pos isMarked]
    rfl

/-- Recording several marked statements. -/
theorem Due.marks {A : Agreement Database} {marks : List Database.Write} (rows : List Database.Write)
    (due : Due A (opens marks) point) (areMarked : ∀ row ∈ rows, marked row = true) :
    Due A (opens (marks ++ rows)) { point with pending := point.pending ++ rows } := by
  refine ⟨due.inv, due.covered, due.accepted, fun later rely => ?_⟩
  have kept := due.law later rely
  unfold opens at *
  rw [← List.append_assoc, List.filter_append, kept, List.filter_eq_self.mpr areMarked]

/-- The rows that are recorded make up an opening. -/
theorem Due.opening {marks : List Database.Write} (opening : Opening)
    (due : Due (treeAgreement depth env chats nonnegative) (opens marks) point)
    (complete : marks = opening.statements) (named : opening.organization.id ≠ "")
    (ancestors : opening.ancestors =
      (opening.organization.parentId.map (Db.ancestors point.store)).getD [])
    (placed : ∀ parentId, opening.organization.parentId = some parentId →
      Place depth env chats point.store parentId ∧ ∃ contract, opening.contract = some contract ∧
        contract.parentId = parentId ∧ contract.childId = opening.organization.id ∧
          contract.status = .active)
    (alone : opening.organization.parentId = none →
      opening.contract = none ∧ 0 ≤ opening.organization.maxDepth) :
    Due (treeAgreement depth env chats nonnegative) (treeLaw depth env chats) point := by
  refine ⟨due.inv, due.covered, due.accepted, fun later rely => ?_⟩
  have filtered : (point.log ++ point.pending).filter marked = opening.statements :=
    (due.law later rely).trans complete
  change TreeLaw depth env chats later (List.filter marked _)
  rw [filtered]
  refine .opening opening ⟨named, ?_, ?_, fun root => (alone root).1⟩ (fun root => (alone root).2) ?_
  · rw [ancestors]
    cases parent : opening.organization.parentId with
    | none => rfl
    | some parentId => exact (rely.le.ancestors parentId (placed parentId parent).1.present).symm
  · intro parentId parent
    obtain ⟨place, contract⟩ := placed parentId parent
    exact ⟨rely.le.mem place.present, contract⟩
  · intro asked allowed parentId parent
    exact ((placed parentId parent).1.rely due.inv rely).permitted asked allowed

/-- Whatever leaves the hierarchy alone keeps to a law about it. -/
theorem wp_sustained {law : Law Database} (program : Op α)
    [kept : Sustains (treeAgreement depth env chats nonnegative) Unmarked law program]
    (due : Due (treeAgreement depth env chats nonnegative) law point) :
    program.wp (treeAgreement depth env chats nonnegative)
      (fun _ later => Due (treeAgreement depth env chats nonnegative) law later) point :=
  kept.sustains _ due

/-- The id of a new organization is not empty. -/
theorem uuid_ne_empty (fresh : Uuid) : fresh.1 ≠ "" := by
  intro empty
  have length := fresh.2
  rw [empty] at length
  cases length

/-- A new organization and its own closure row are recorded, and the organization was sent. -/
structure Begun (chats : Set Int) (nonnegative : depth → 0 ≤ env.maxTreeDepth)
    (organization : Organization)
    (point : Point Database) : Prop where
  due : Due (treeAgreement depth env chats nonnegative)
    (opens [.insert .organizations organization,
      .insert .closures ⟨organization.id, organization.id, 0⟩]) point
  sent : point.log.filter marked = [.insert .organizations organization]
  named : organization.id ≠ ""

/-- Recording a new organization, sending it, and recording its own closure row. -/
theorem wp_begin (organization : Organization) {post : Except Failure β → Point Database → Prop}
    (rest : Unit → Op β)
    (due : Due (treeAgreement depth env chats nonnegative) unopened point)
    (named : organization.id ≠ "")
    (next : ∀ later, Begun chats nonnegative organization later →
      Extends point.store later.store →
        (rest ()).wp (treeAgreement depth env chats nonnegative) post later)
    (raised : ∀ exception later,
      Due (treeAgreement depth env chats nonnegative) (treeLaw depth env chats) later →
        post (.error exception) later) :
    wp (treeAgreement depth env chats nonnegative)
      (insert .organizations organization >>= fun _ => flush >>= fun _ =>
        insert .closures ⟨organization.id, organization.id, 0⟩ >>= rest) post point := by
  rw [wp_insert_bind]
  refine wp_seq _ (wp_le (wp_flush_due Unmarked (Due.mark due rfl))) ?_ ?_
  · rintro _ flushed ⟨⟨opened, empty⟩, le⟩
    rw [wp_insert_bind]
    refine next _ ⟨Due.mark opened rfl, ?_, named⟩ le
    have kept := opened.law flushed.store (.refl opened.inv)
    unfold opens at kept
    rwa [empty, List.append_nil] at kept
  · rintro exception later ⟨⟨invariant, fresh⟩, _⟩
    refine raised _ _ ?_
    rw [fresh]
    exact .fresh Unmarked invariant

/-- Recording the place of a new organization below its parent, and its contract. -/
theorem wp_hang {organization : Organization} {parentId : Id} (pricePerGibIrr : Int)
    {post : Except Failure β → Point Database → Prop} (rest : Unit → Op β)
    (begun : Begun chats nonnegative organization point)
    (parent : organization.parentId = some parentId)
    (place : Place depth env chats point.store parentId)
    (next : ∀ later,
      Due (treeAgreement depth env chats nonnegative) (treeLaw depth env chats) later →
        (rest ()).wp (treeAgreement depth env chats nonnegative) post later) :
    wp (treeAgreement depth env chats nonnegative)
      (scalars .closures (fun row => row.descendantId = parentId) >>= fun ancestors =>
        (forEach ancestors fun edge =>
          insert .closures ⟨edge.ancestorId, organization.id, edge.depth + 1⟩) >>= fun _ =>
            uid >>= fun contractId =>
              insert .contracts ⟨contractId, parentId, organization.id, pricePerGibIrr, .active⟩
                >>= rest) post point := by
  rw [wp_scalars_bind]
  intro later rely
  have there := place.rely begun.due.inv rely
  rw [show Db.rows (replay point.log later) .closures = later.closures from
    closures_view begun.sent later, wp_forEach_insert_bind, wp_uid_bind]
  intro contractId
  rw [wp_insert_bind]
  let opening : Opening := ⟨organization, later.ancestors parentId,
    some ⟨contractId.1, parentId, organization.id, pricePerGibIrr, .active⟩⟩
  have above := Due.marks ((later.ancestors parentId).map fun edge =>
    .insert .closures ⟨edge.ancestorId, organization.id, edge.depth + 1⟩) (begun.due.rely rely)
      (by simp [marked])
  have agreed := Due.mark above
    (show marked (.insert .contracts
      ⟨contractId.1, parentId, organization.id, pricePerGibIrr, .active⟩) = true from rfl)
  refine next _ (Due.opening opening agreed ?_ begun.named ?_ ?_ ?_)
  · simp [Opening.statements, Opening.closures, opening]
  · rw [parent]
    rfl
  · intro other own
    obtain rfl : parentId = other := Option.some.inj (parent.symm.trans own)
    exact ⟨there, _, rfl, rfl, rfl, rfl⟩
  · intro root
    rw [parent] at root
    cases root

/-- Opening an organization below a place. -/
theorem wp_openChild {parentId : Id}
    (due : Due (treeAgreement depth env chats nonnegative) unopened point)
    (place : Place depth env chats point.store parentId) (name slug : String)
    (creditLimitIrr pricePerGibIrr : Int) :
    (openChild parentId name slug creditLimitIrr pricePerGibIrr).wp
      (treeAgreement depth env chats nonnegative)
      (fun _ later => Due (treeAgreement depth env chats nonnegative)
        (treeLaw depth env chats) later) point := by
  unfold openChild
  rw [wp_uid_bind]
  intro id
  refine wp_begin ⟨id.1, some parentId, name, slug, .active, creditLimitIrr, 5⟩ _ due
    (uuid_ne_empty id) ?_ fun _ _ stopped => stopped
  intro begun opened le
  refine wp_hang pricePerGibIrr _ opened rfl
    (place.extend le due.inv.hierarchy.integrity opened.due.inv.hierarchy.integrity) ?_
  exact fun later complete => wp_sustained _ complete

/-! ## The depth of a parent -/

/-- The deepest closure row is among the rows, and none is deeper. -/
theorem rootRow_spec (rows : List Closure) :
    match rootRow rows with
    | none => rows = []
    | some best => best ∈ rows ∧ ∀ row ∈ rows, row.depth ≤ best.depth := by
  have fold : ∀ (rows seen : List Closure) (best : Option Closure),
      (match best with
        | none => seen = []
        | some best => best ∈ seen ∧ ∀ row ∈ seen, row.depth ≤ best.depth) →
      match rows.foldl (fun best row =>
          match best with
          | none => some row
          | some deepest => if deepest.depth < row.depth then some row else best) best with
        | none => seen ++ rows = []
        | some best => best ∈ seen ++ rows ∧ ∀ row ∈ seen ++ rows, row.depth ≤ best.depth := by
    intro rows
    induction rows with
    | nil =>
        intro seen best holds
        rw [List.append_nil]
        exact holds
    | cons row rows inductionHypothesis =>
        intro seen best holds
        rw [List.foldl_cons, ← List.singleton_append, ← List.append_assoc]
        refine inductionHypothesis (seen ++ [row]) _ ?_
        cases best with
        | none =>
            obtain rfl : seen = [] := holds
            simp
        | some deepest =>
            obtain ⟨member, bound⟩ := holds
            dsimp only
            by_cases deeper : deepest.depth < row.depth
            · rw [if_pos deeper]
              refine ⟨by simp, fun other otherMember => ?_⟩
              rcases List.mem_append.mp otherMember with old | new
              · exact (bound other old).trans (Nat.le_of_lt deeper)
              · rw [List.mem_singleton.mp new]
            · rw [if_neg deeper]
              refine ⟨List.mem_append_left _ member, fun other otherMember => ?_⟩
              rcases List.mem_append.mp otherMember with old | new
              · exact bound other old
              · rw [List.mem_singleton.mp new]
                exact Nat.le_of_not_lt deeper
  have start := fold rows [] none rfl
  rwa [List.nil_append] at start

/-- `depth_of` is at least the depth of each row. -/
theorem le_foldl_depth (rows : List Closure) {row : Closure} (member : row ∈ rows) :
    row.depth ≤ rows.foldl (fun depth row => max depth row.depth) 0 := by
  have fold : ∀ (rows : List Closure) (start : Nat),
      start ≤ rows.foldl (fun depth row => max depth row.depth) start ∧
        ∀ row ∈ rows, row.depth ≤ rows.foldl (fun depth row => max depth row.depth) start := by
    intro rows
    induction rows with
    | nil => exact fun start => ⟨Nat.le_refl _, by simp⟩
    | cons head rows inductionHypothesis =>
        intro start
        obtain ⟨bound, rest⟩ := inductionHypothesis (max start head.depth)
        rw [List.foldl_cons]
        refine ⟨(Nat.le_max_left ..).trans bound, fun other otherMember => ?_⟩
        rcases List.mem_cons.mp otherMember with rfl | later
        · exact (Nat.le_max_right ..).trans bound
        · exact rest other later
  exact (fold rows 0).2 row member

/-- The limit that holds below an organization, as `effective_depth_limit` finds it, is that of
its root. -/
theorem mayHaveChild_of_limit {db : Db} (hierarchy : Hierarchy db) {id : Id}
    (deepest : Closure) (root : Node) (listed : deepest ∈ db.ancestors id)
    (bound : ∀ row ∈ db.ancestors id, row.depth ≤ deepest.depth)
    (member : root ∈ db.nodes) (same : root.id = deepest.ancestorId) {depth : Nat}
    (deep : ∀ row ∈ db.ancestors id, row.depth ≤ depth)
    (passed : (depth : Int) + 1 ≤ min env.maxTreeDepth root.maxDepth) : MayHaveChild env db id := by
  intro count other otherMember top climbs
  have below : deepest.descendantId = id := by simpa using (List.mem_filter.mp listed).2
  obtain ⟨present, toDeepest⟩ := (hierarchy.closures ..).mp (List.mem_of_mem_filter listed)
  rw [below] at present toDeepest
  have row : (⟨other.id, id, count⟩ : Closure) ∈ db.ancestors id :=
    List.mem_filter.mpr ⟨(hierarchy.closures ..).mpr ⟨present, climbs⟩, by simp⟩
  have otherTop : db.parentOf other.id = none := by
    obtain ⟨organization, organizationMember, rfl⟩ := List.mem_map.mp otherMember
    exact (parentOf_eq hierarchy.integrity organizationMember).trans top
  have exact' : deepest.depth = count :=
    Nat.le_antisymm (toDeepest.le_root climbs otherTop) (bound _ row)
  rw [exact'] at toDeepest
  have ends := toDeepest.unique climbs
  obtain rfl := hierarchy.integrity.node_eq member otherMember (same.trans ends)
  have reached : count ≤ depth := deep _ row
  omega

/-- A session that has not begun an opening has sent no marked statement. -/
theorem Due.unmarked (due : Due (treeAgreement depth env chats nonnegative) unopened point)
    {later : Db} (rely : (treeAgreement depth env chats nonnegative).Rely point.held point.store
      later) : point.log.filter marked = [] := by
  have kept : (point.log ++ point.pending).filter marked = [] := due.law later rely
  rw [List.filter_append, List.append_eq_nil_iff] at kept
  exact kept.1

/-- The session sees the closure rows of an organization as they are committed. -/
theorem Due.ancestors_view
    (due : Due (treeAgreement depth env chats nonnegative) unopened point) {later : Db}
    (rely : (treeAgreement depth env chats nonnegative).Rely point.held point.store later)
    (id : Id) :
    (Db.rows (replay point.log later) .closures).filter (fun row => row.descendantId = id) =
      later.ancestors id :=
  congrArg (List.filter _) (nodes_view (Due.unmarked due rely) later).2

/-- The session sees the organizations at their place. -/
theorem Due.node_mem (due : Due (treeAgreement depth env chats nonnegative) unopened point)
    {later : Db}
    (rely : (treeAgreement depth env chats nonnegative).Rely point.held point.store later) {id : Id}
    {organization : Organization}
    (found : Db.find (replay point.log later) .organizations id = some organization) :
    organization.node ∈ later.nodes ∧ organization.id = id := by
  obtain ⟨member, own⟩ := Db.find_mem found
  refine ⟨?_, Option.some.inj own⟩
  rw [← (nodes_view (Due.unmarked due rely) later).1]
  exact ControlPlane.node_mem member

/-- A session that has not begun an opening may stop where it is. -/
theorem Due.anyhow (due : Due (treeAgreement depth env chats nonnegative) unopened point) :
    Due (treeAgreement depth env chats nonnegative) (treeLaw depth env chats) point :=
  due.weaken fun _ log _ _ (empty : log.filter marked = []) => by
    unfold treeLaw
    rw [empty]
    exact .none

/-- A passed check of the depth is a permission to have children. -/
theorem wp_assertDepthAllowed {parent : Organization}
    (due : Due (treeAgreement depth env chats nonnegative) unopened point)
    (present : parent.id ∈ point.store.nodes.map Node.id) :
    (assertDepthAllowed env parent).wp (treeAgreement depth env chats nonnegative)
      (fun result later => Due (treeAgreement depth env chats nonnegative) unopened later ∧
        (result = .ok () → MayHaveChild env later.store parent.id)) point := by
  unfold assertDepthAllowed effectiveDepthLimit
  rw [wp_bind, wp_scalars_bind]
  intro first firstRely
  have dueFirst := due.rely firstRely
  have presentFirst := firstRely.le.mem present
  rw [Due.ancestors_view due firstRely, wp_branch]
  have spec := rootRow_spec (first.ancestors parent.id)
  constructor
  · intro missing
    rw [missing] at spec
    have own : (⟨parent.id, parent.id, 0⟩ : Closure) ∈ first.ancestors parent.id :=
      List.mem_filter.mpr
        ⟨(dueFirst.inv.hierarchy.closures ..).mpr ⟨presentFirst, .here _⟩, by simp⟩
    rw [spec] at own
    cases own
  · intro deepest chosen
    rw [chosen] at spec
    obtain ⟨listed, bound⟩ := spec
    rw [wp_get_bind]
    intro second secondRely
    rw [wp_found_bind]
    refine ⟨fun root stored => ?_, fun _ => ⟨dueFirst.rely secondRely, by rintro ⟨⟩⟩⟩
    obtain ⟨rootMember, rootId⟩ := Due.node_mem dueFirst secondRely stored
    have dueSecond := dueFirst.rely secondRely
    rw [wp_pure]
    dsimp only
    unfold depthOf
    rw [wp_bind, wp_scalars_bind]
    intro third thirdRely
    have dueThird := dueSecond.rely thirdRely
    rw [Due.ancestors_view dueSecond thirdRely, wp_pure]
    dsimp only
    rw [wp_require]
    refine ⟨fun passed => ⟨dueThird, fun _ => ?_⟩, fun _ => ⟨dueThird, by rintro ⟨⟩⟩⟩
    have same : third.ancestors parent.id = first.ancestors parent.id :=
      (secondRely.le.trans thirdRely.le).ancestors parent.id presentFirst
    refine mayHaveChild_of_limit dueThird.inv.hierarchy deepest root.node ?_ ?_
      (thirdRely.le.node_mem rootMember) rootId
      (fun row member => le_foldl_depth _ member) passed
    · rwa [same]
    · rwa [same]

/-- A session that only read keeps every law about what it writes. -/
theorem Clean.due {law : Law Database}
    [(treeAgreement depth env chats nonnegative).Sanctions Unmarked law]
    (clean : Clean (treeAgreement depth env chats nonnegative) point) :
    Due (treeAgreement depth env chats nonnegative) law point := by
  rw [clean.fresh]
  exact .fresh Unmarked clean.inv

/-- What holds of the store, and lasts, holds after steps that leave the hierarchy alone. -/
theorem wp_beside {P : Db → Prop}
    (lasts : ∀ {db later}, Integrity db → Integrity later → Extends db later → P db → P later)
    (program : Op α) [Sustains (treeAgreement depth env chats nonnegative) Unmarked unopened program]
    (rest : α → Op β) (due : Due (treeAgreement depth env chats nonnegative) unopened point)
    (holds : P point.store)
    (next : ∀ value later, Due (treeAgreement depth env chats nonnegative) unopened later →
      P later.store → (rest value).wp (treeAgreement depth env chats nonnegative)
        (fun _ last => Due (treeAgreement depth env chats nonnegative)
          (treeLaw depth env chats) last) later) :
    (program >>= rest).wp (treeAgreement depth env chats nonnegative)
      (fun _ last => Due (treeAgreement depth env chats nonnegative)
        (treeLaw depth env chats) last) point :=
  wp_seq _ (wp_le (wp_sustained program due))
    (fun value later kept => next value later kept.1
      (lasts due.inv.hierarchy.integrity kept.1.inv.hierarchy.integrity kept.2 holds))
    fun _ _ kept => Due.anyhow kept.1

/-- Steps that leave the hierarchy alone, before anything is known of it. -/
theorem wp_before (program : Op α)
    [Sustains (treeAgreement depth env chats nonnegative) Unmarked unopened program]
    (rest : α → Op β) (due : Due (treeAgreement depth env chats nonnegative) unopened point)
    (next : ∀ value later, Due (treeAgreement depth env chats nonnegative) unopened later →
      (rest value).wp (treeAgreement depth env chats nonnegative)
        (fun _ last => Due (treeAgreement depth env chats nonnegative)
          (treeLaw depth env chats) last) later) :
    (program >>= rest).wp (treeAgreement depth env chats nonnegative)
      (fun _ last => Due (treeAgreement depth env chats nonnegative)
        (treeLaw depth env chats) last) point :=
  wp_seq _ (wp_sustained program due) next fun _ _ kept => Due.anyhow kept

/-- A check of the depth of a parent that is there makes it a place. -/
theorem wp_placed {parent : Organization} (rest : Unit → Op β)
    (due : Due (treeAgreement depth env chats nonnegative) unopened point)
    (present : parent.id ∈ point.store.nodes.map Node.id)
    (next : ∀ later, Due (treeAgreement depth env chats nonnegative) unopened later →
      Place depth env chats later.store parent.id →
        (rest ()).wp (treeAgreement depth env chats nonnegative)
          (fun _ last => Due (treeAgreement depth env chats nonnegative)
            (treeLaw depth env chats) last) later) :
    (assertDepthAllowed env parent >>= rest).wp (treeAgreement depth env chats nonnegative)
      (fun _ last => Due (treeAgreement depth env chats nonnegative)
        (treeLaw depth env chats) last) point :=
  wp_seq _ (wp_le (wp_assertDepthAllowed due present))
    (fun _ later kept => next later kept.1.1
      ⟨kept.2.mem present, fun _ _ => kept.1.2 rfl⟩)
    fun _ _ kept => Due.anyhow kept.1.1

/-- That an organization is there lasts. -/
theorem present_lasts (id : Id) {db later : Db} (_ : Integrity db) (_ : Integrity later)
    (extends' : Extends db later) (present : id ∈ db.nodes.map Node.id) :
    id ∈ later.nodes.map Node.id := extends'.mem present

/-- A place lasts. -/
theorem place_lasts (id : Id) {db later : Db} (integrity : Integrity db) (lastly : Integrity later)
    (extends' : Extends db later) (place : Place depth env chats db id) :
    Place depth env chats later id := place.extend extends' integrity lastly

/-! ## The operations -/

theorem wp_webCreateChild (identity : TelegramIdentity) (data : WebChildIn) {store : Db} :
    (webCreateChild env identity data).wp (treeAgreement depth env chats nonnegative)
      (fun _ last => Due (treeAgreement depth env chats nonnegative)
        (treeLaw depth env chats) last) ⟨[], [], [], store⟩ := by
  unfold webCreateChild
  refine wp_seq _ (wp_manager identity.userId .manageResellers) ?_
    fun _ _ stopped => stopped.1.due
  rintro caller first ⟨clean, may⟩
  refine wp_beside (present_lasts caller.organization.id) _ _ clean.due (may caller rfl).present ?_
  intro _ second free there
  refine wp_placed _ free there fun third passed place => ?_
  exact wp_after Unmarked (wp_openChild passed place ..) _

theorem wp_adminCreateReseller (identity : TelegramIdentity) (data : AdminResellerIn)
    {store : Db} :
    (adminCreateReseller env identity data).wp (treeAgreement depth env chats nonnegative)
      (fun _ last => Due (treeAgreement depth env chats nonnegative)
        (treeLaw depth env chats) last) ⟨[], [], [], store⟩ := by
  unfold adminCreateReseller
  refine wp_seq _ (wp_membershipFor identity.userId) ?_
    fun _ _ stopped => stopped.1.due
  rintro caller first ⟨clean, acts⟩
  refine wp_beside (present_lasts caller.organization.id) _ _ clean.due (acts caller rfl).present ?_
  intro _ second root there
  refine wp_placed _ root there fun third passed place => ?_
  refine wp_beside (place_lasts caller.organization.id) _ _ passed place ?_
  intro _ fourth free place
  refine wp_beside (place_lasts caller.organization.id) _ _ free place ?_
  intro target fifth aimed place
  exact wp_after Unmarked (wp_openChild aimed place ..) _

theorem wp_approvePanelOrder (order : PanelOrder) (reviewerId sellerId : Id)
    (attach : Option OrderApproveIn)
    (due : Due (treeAgreement depth env chats nonnegative) unopened point) :
    (approvePanelOrder env order reviewerId sellerId attach).wp
      (treeAgreement depth env chats nonnegative)
      (fun _ last => Due (treeAgreement depth env chats nonnegative)
        (treeLaw depth env chats) last) point := by
  unfold approvePanelOrder
  refine wp_before _ _ due fun _ first due => ?_
  refine wp_before _ _ due fun _ second due => ?_
  refine wp_before _ _ due fun order third due => ?_
  refine wp_before _ _ due fun panelRow fourth due => ?_
  refine wp_before _ _ due fun panel fifth due => ?_
  rw [wp_get_bind]
  intro sixth rely
  rw [wp_found_bind]
  refine ⟨fun parent stored => ?_, fun _ => Due.anyhow (due.rely rely)⟩
  have present := List.mem_map_of_mem (f := Node.id) (Due.node_mem due rely stored).1
  refine wp_placed _ (due.rely rely) present fun seventh passed place => ?_
  refine wp_beside (place_lasts parent.id) _ _ passed place ?_
  intro _ eighth free place
  exact wp_after Unmarked (wp_openChild free place ..) _

theorem wp_approveOrder (identity : TelegramIdentity) (orderId : Id) (attach : OrderApproveIn)
    (due : Due (treeAgreement depth env chats nonnegative) unopened point) :
    (approveOrder env identity orderId attach).wp (treeAgreement depth env chats nonnegative)
      (fun _ last => Due (treeAgreement depth env chats nonnegative)
        (treeLaw depth env chats) last) point := by
  unfold approveOrder
  refine wp_before _ _ due fun caller first due => ?_
  refine wp_before _ _ due fun order second due => ?_
  exact wp_after Unmarked (wp_approvePanelOrder order _ _ _ due) _

/-- The parent of an organization that was sent has a name. -/
theorem Begun.parent_named {organization : Organization}
    (begun : Begun chats nonnegative organization point) :
    organization.parentId ≠ some "" := by
  intro unnamed
  have refl := @Agreement.Rely.refl _ _ point.held _ begun.due.inv
  have integrity : Integrity (replay point.log point.store) :=
    Layout.Integrity.replay begun.due.inv.hierarchy.integrity (begun.due.accepted _ refl)
  have nodes : Db.nodes (replay point.log point.store) =
      point.store.nodes ++ [organization.node] := by
    have lasting : Lasting point.log := lasting_of_filter (by
      intro table key member
      simp at member) begun.sent
    rw [(hierarchy_replay lasting point.store).1, ← (opened_filter point.log).1, begun.sent]
    rfl
  have member : organization.node ∈ Db.nodes (replay point.log point.store) := by
    rw [nodes]
    exact List.mem_append_right _ List.mem_cons_self
  obtain ⟨stored, storedMember, same⟩ := List.mem_map.mp member
  have step := (parentOf_eq integrity storedMember).trans
    ((congrArg Node.parentId same).trans unnamed)
  have present := integrity.parent_mem step
  rw [nodes, List.map_append, List.mem_append] at present
  rcases present with old | new
  · obtain ⟨node, nodeMember, empty⟩ := List.mem_map.mp old
    exact begun.due.inv.hierarchy.named node nodeMember empty
  · exact begun.named (List.mem_singleton.mp new).symm

/-- A new organization without a parent is complete. -/
theorem Begun.alone {organization : Organization}
    (begun : Begun chats nonnegative organization point)
    (root : organization.parentId = none) (room : 0 ≤ organization.maxDepth) :
    Due (treeAgreement depth env chats nonnegative) (treeLaw depth env chats) point := by
  refine Due.opening ⟨organization, [], none⟩ begun.due rfl begun.named ?_ ?_ fun _ => ⟨rfl, room⟩
  · rw [root]
    rfl
  · intro parentId parent
    rw [root] at parent
    cases parent

theorem wp_orgParent (data : OrgIn)
    (due : Due (treeAgreement depth env chats nonnegative) unopened point) :
    (orgParent env data).wp (treeAgreement depth env chats nonnegative)
      (fun result later => Due (treeAgreement depth env chats nonnegative) unopened later ∧
        (result = .ok none → data.parentId.filter (· ≠ "") = none) ∧
        ∀ parent price, result = .ok (some (parent, price)) →
          data.parentId = some parent.id ∧ Place depth env chats later.store parent.id) point := by
  unfold orgParent
  rw [wp_branch]
  refine ⟨fun none => ⟨due, fun _ => none, by rintro _ _ ⟨⟩⟩, fun parentId named => ?_⟩
  have given : data.parentId = some parentId := (Option.filter_eq_some_iff.mp named).1
  rw [wp_get_bind]
  intro first rely
  rw [wp_found_bind]
  refine ⟨fun parent stored => ?_, fun _ => ⟨due.rely rely, by rintro ⟨⟩, by rintro _ _ ⟨⟩⟩⟩
  obtain ⟨member, own⟩ := Due.node_mem due rely stored
  rw [wp_found_bind]
  refine ⟨fun price _ => ?_, fun _ => ⟨due.rely rely, by rintro ⟨⟩, by rintro _ _ ⟨⟩⟩⟩
  have present : parent.id ∈ first.nodes.map Node.id := List.mem_map_of_mem (f := Node.id) member
  refine wp_seq _ (wp_le (wp_assertDepthAllowed (due.rely rely) present)) ?_ ?_
  · rintro _ later ⟨⟨kept, allowed⟩, le⟩
    refine ⟨kept, by rintro ⟨⟩, ?_⟩
    rintro _ _ ⟨⟩
    exact ⟨own ▸ given, le.mem present, fun _ _ => allowed rfl⟩
  · rintro exception later ⟨⟨kept, _⟩, _⟩
    exact ⟨kept, by rintro ⟨⟩, by rintro _ _ ⟨⟩⟩

theorem wp_createOrg (data : OrgIn)
    (due : Due (treeAgreement depth env chats nonnegative) unopened point) :
    (createOrg env data).wp (treeAgreement depth env chats nonnegative)
      (fun _ last => Due (treeAgreement depth env chats nonnegative)
        (treeLaw depth env chats) last) point := by
  unfold createOrg
  refine wp_before _ _ due fun _ first due => ?_
  refine wp_seq _ (wp_orgParent data due) ?_ fun _ _ stopped => Due.anyhow stopped.1
  rintro parent second ⟨kept, alone, below⟩
  rw [wp_uid_bind]
  intro id
  refine wp_begin ⟨id.1, data.parentId, data.name, data.slug, .active, data.creditLimitIrr, 5⟩ _
    kept (uuid_ne_empty id) ?_ fun _ _ stopped => stopped
  intro begun opened le
  refine wp_after Unmarked ?_ _
  rw [wp_branch]
  constructor
  · rintro rfl
    have root : data.parentId = none := by
      cases given : data.parentId with
      | none => rfl
      | some parentId =>
          have unnamed := alone rfl
          rw [given, Option.filter_eq_none_iff] at unnamed
          refine absurd ?_ opened.parent_named
          simpa [given] using unnamed
    exact opened.alone root (show (0 : Int) ≤ 5 by decide)
  · rintro ⟨parent, price⟩ rfl
    obtain ⟨given, place⟩ := below parent price rfl
    exact wp_hang price Pure.pure opened given
      (place.extend le kept.inv.hierarchy.integrity opened.due.inv.hierarchy.integrity)
      fun _ complete => complete

theorem wp_bootstrapWorkspace (identity : TelegramIdentity) (data : BootstrapIn)
    (due : Due (treeAgreement depth env chats nonnegative) unopened point) :
    (bootstrapWorkspace env identity data).wp (treeAgreement depth env chats nonnegative)
      (fun _ last => Due (treeAgreement depth env chats nonnegative)
        (treeLaw depth env chats) last) point := by
  unfold bootstrapWorkspace
  refine wp_before _ _ due fun _ first due => ?_
  refine wp_before _ _ due fun complete second due => ?_
  refine wp_before _ _ due fun _ third due => ?_
  refine wp_before _ _ due fun _ fourth due => ?_
  rw [wp_uid_bind]
  intro id
  refine wp_begin ⟨id.1, none, data.businessName, data.slug, .active, 0, 5⟩ _
    due (uuid_ne_empty id) ?_ fun _ _ stopped => stopped
  intro begun opened _
  exact wp_sustained _ (opened.alone rfl (show (0 : Int) ≤ 5 by decide))

/-! ## The bot -/

/-- Whoever may create resellers for an organization stands for a place, where resellers are
allowed. -/
theorem MayAct.place {chatId : Int} {db : Db} {actorId id : Id}
    (may : MayAct env db chatId .manageResellers actorId id) (listed : chatId ∈ chats) :
    Place depth env chats db id := by
  refine ⟨may.present, fun _ allowed => ?_⟩
  obtain ⟨role, acts, permitted⟩ := may
  obtain ⟨actor, member, rfl, rfl⟩ := acts.actor
  obtain ⟨membership, present, own, active, rfl, rfl⟩ := acts.membership
  exact allowed actor member listed membership present own active permitted

/-- The body of a bot action that begins with a permission. -/
theorem wp_acting (chatId : Int) (permission : Permission) {store : Db}
    (rest : Bot.Context → Op β)
    (next : ∀ caller later, (treeAgreement depth env chats nonnegative).inv later →
      MayAct env later chatId permission caller.actorId caller.organizationId →
        (rest caller).wp (treeAgreement depth env chats nonnegative)
          (fun _ last => Due (treeAgreement depth env chats nonnegative)
            (treeLaw depth env chats) last) ⟨[], [], [], later⟩) :
    (Bot.permitted env chatId permission >>= rest).wp (treeAgreement depth env chats nonnegative)
      (fun _ last => Due (treeAgreement depth env chats nonnegative)
        (treeLaw depth env chats) last) ⟨[], [], [], store⟩ := by
  refine wp_seq _ (wp_permitted chatId permission) ?_ fun _ _ stopped => stopped.1.due
  rintro caller later ⟨clean, may⟩
  rw [clean.fresh]
  exact next caller later.store clean.inv (may caller rfl)

theorem wp_reviewerOrderAction (chatId : Int) (orderId : Id) (approve : Bool) (reason : String)
    (attach : Option OrderApproveIn) {store : Db} :
    (Bot.reviewerOrderAction env chatId orderId approve reason attach).wp
      (treeAgreement depth env chats nonnegative)
      (fun _ last => Due (treeAgreement depth env chats nonnegative)
        (treeLaw depth env chats) last) ⟨[], [], [], store⟩ := by
  unfold Bot.reviewerOrderAction
  refine wp_acting chatId .decideOrders _ fun caller later inv _ => ?_
  refine wp_withSession Unmarked (wp_after Unmarked (wp_replying ?_) _)
  refine wp_before _ _ (.fresh Unmarked inv) fun order second due => ?_
  cases approve with
  | true => exact wp_after Unmarked (wp_approvePanelOrder order _ _ attach due) _
  | false =>
      rw [if_neg Bool.false_ne_true]
      exact wp_sustained _ (Due.anyhow due)

theorem wp_createReseller (chatId : Int) (data : Bot.ResellerData) (listed : chatId ∈ chats)
    {store : Db} :
    (Bot.createReseller env chatId data).wp (treeAgreement depth env chats nonnegative)
      (fun _ last => Due (treeAgreement depth env chats nonnegative)
        (treeLaw depth env chats) last) ⟨[], [], [], store⟩ := by
  unfold Bot.createReseller
  -- Of the parser of numbers, all that matters is that it leaves the hierarchy alone.
  have before (text : String) : Sustains (treeAgreement depth env chats nonnegative) Unmarked
      unopened (Bot.parseInt text) := inferInstance
  have after (text : String) : Sustains (treeAgreement depth env chats nonnegative) Unmarked
      (treeLaw depth env chats) (Bot.parseInt text) := inferInstance
  revert before after
  generalize Bot.parseInt = parseInt
  intro before after
  refine wp_acting chatId .manageResellers _ fun caller later inv acts => ?_
  refine wp_withSession Unmarked ?_
  have place : Place depth env chats later caller.organizationId := acts.place listed
  refine wp_beside (place_lasts caller.organizationId) _ _ (.fresh Unmarked inv) place ?_
  intro taken first due place
  refine wp_beside (place_lasts caller.organizationId) _ _ due place ?_
  intro _ second due place
  refine wp_beside (place_lasts caller.organizationId) _ _ due place ?_
  intro credit third due place
  refine wp_beside (place_lasts caller.organizationId) _ _ due place ?_
  intro price fourth due place
  exact wp_after Unmarked (wp_openChild due place ..) _

end

end ControlPlane
