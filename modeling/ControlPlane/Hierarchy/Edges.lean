import ControlPlane.Hierarchy.Tree

/-!
# The edges above an organization

In a hierarchy, `edges` walks from an organization to its root: it meets no
cycle and misses no contract, and returns one edge for each step, in the order
of the closure rows.
-/

namespace ControlPlane

open ReadCommitted Orm Forest

/-- The contract edges from an organization to its root. -/
inductive Ascends (db : Db) : Id → List Edge → Prop
  | root {id : Id} : db.parentOf id = none → Ascends db id []
  | up {id parentId : Id} {contract : Contract} {path : List Edge} :
      db.parentOf id = some parentId → db.activeContracts id = [contract] →
      contract.parentId = parentId → Ascends db parentId path →
      Ascends db id (⟨id, parentId, contract.pricePerGibIrr⟩ :: path)

variable {db : Db} {id : Id} {path : List Edge}

/-- In a hierarchy there is a path above each organization. -/
theorem Hierarchy.ascends (hierarchy : Hierarchy db) (present : id ∈ db.nodes.map Node.id) :
    ∃ path, Ascends db id path := by
  obtain ⟨node, member, rfl⟩ := List.mem_map.mp present
  obtain ⟨depth, root, climbs, top⟩ := hierarchy.rooted node member
  generalize node.id = id at present climbs
  induction climbs with
  | here => exact ⟨[], .root top⟩
  | up step _ inductionHypothesis =>
      obtain ⟨path, ascends⟩ :=
        inductionHypothesis top (hierarchy.integrity.parent_mem step)
      obtain ⟨above, aboveMember, own, parent⟩ := mem_of_parentIn step
      obtain ⟨contract, only, names⟩ := hierarchy.contracts above aboveMember _ parent
      exact ⟨_, .up step (own ▸ only) names ascends⟩

namespace Ascends

/-- The steps of a path end at a root. -/
theorem rooted (ascends : Ascends db id path) : Rooted db.parentOf id := by
  induction ascends with
  | root top => exact ⟨0, _, .here _, top⟩
  | up step _ _ _ inductionHypothesis => exact inductionHypothesis.up step

/-- Each edge starts from an organization on the way. -/
theorem climbs_childId (ascends : Ascends db id path) {edge : Edge} (member : edge ∈ path) :
    ∃ count, Climbs db.parentOf id count edge.childId := by
  induction ascends with
  | root => cases member
  | up step _ _ _ inductionHypothesis =>
      rcases List.mem_cons.mp member with rfl | later
      · exact ⟨0, .here _⟩
      · obtain ⟨count, climbs⟩ := inductionHypothesis later
        exact ⟨count + 1, .up step climbs⟩

/-- The edges start from different organizations. -/
theorem nodup (ascends : Ascends db id path) : (path.map Edge.childId).Nodup := by
  induction ascends with
  | root => exact List.nodup_nil
  | @up id parentId contract path step only names above inductionHypothesis =>
      refine List.nodup_cons.mpr ⟨fun member => ?_, inductionHypothesis⟩
      obtain ⟨edge, edgeMember, same⟩ := List.mem_map.mp member
      obtain ⟨count, climbs⟩ := above.climbs_childId edgeMember
      obtain ⟨depth, root, toRoot, top⟩ := (Ascends.up step only names above).rooted
      rw [same] at climbs
      have circle := toRoot.no_cycle top (.up step climbs)
      cases circle

/-- A path is no longer than there are organizations. -/
theorem length_le (ascends : Ascends db id path) (hierarchy : Hierarchy db)
    (present : id ∈ db.nodes.map Node.id) : path.length ≤ db.organizations.length := by
  have subset : path.map Edge.childId ⊆ db.nodes.map Node.id := by
    intro child member
    obtain ⟨edge, edgeMember, rfl⟩ := List.mem_map.mp member
    obtain ⟨_, climbs⟩ := ascends.climbs_childId edgeMember
    exact hierarchy.integrity.climbs_mem climbs present
  have bound := (List.subperm_of_subset ascends.nodup subset).length_le
  simpa [nodes_ids] using bound

/-- The edges lead along the steps of the hierarchy, in order. -/
theorem climbs_iff (ascends : Ascends db id path) (count : Nat) (ancestor : Id) :
    Climbs db.parentOf id (count + 1) ancestor ↔
      (path[count]?).map Edge.parentId = some ancestor := by
  induction ascends generalizing count with
  | root top =>
      refine ⟨fun climbs => ?_, by simp⟩
      cases climbs with
      | up step => rw [top] at step; cases step
  | @up id parentId contract path step only names above inductionHypothesis =>
      cases count with
      | zero =>
          constructor
          · intro climbs
            cases climbs with
            | up other rest =>
                cases rest
                rw [step] at other
                simpa using other
          · intro first
            obtain rfl : parentId = ancestor := by simpa using first
            exact .up step (.here _)
      | succ count =>
          rw [List.getElem?_cons_succ, ← inductionHypothesis count]
          constructor
          · intro climbs
            cases climbs with
            | up other rest =>
                rw [step] at other
                cases other
                exact rest
          · exact .up step

end Ascends

/-- An organization with a parent is found by its id, with its parent. -/
theorem find_of_parentOf (integrity : Integrity db) {parentId : Id}
    (step : db.parentOf id = some parentId) :
    ∃ organization, db.find .organizations id = some organization ∧ organization.id = id ∧
      organization.parentId = some parentId := by
  obtain ⟨node, member, own, parent⟩ := mem_of_parentIn step
  obtain ⟨organization, present, rfl⟩ := List.mem_map.mp member
  exact ⟨organization, integrity.find_eq_some present (congrArg some own), own, parent⟩

/-- A root has no parent to climb to. -/
theorem parent_of_root (integrity : Integrity db) (top : db.parentOf id = none)
    {organization : Organization} (found : db.find .organizations id = some organization) :
    organization.parentId = none := by
  obtain ⟨member, own⟩ := Db.find_mem found
  cases own
  rw [← parentOf_eq integrity member]
  exact top

/-- The walk of `edges` along a path. -/
theorem run_climb (answers : Answers Database) {alone : Alone Database}
    (hierarchy : Hierarchy alone.view) (ascends : Ascends alone.view id path) {fuel : Nat}
    (enough : path.length < fuel) {seen : List Id}
    (below : ∀ other ∈ seen, ∃ count, Climbs (Db.parentOf alone.view) other (count + 1) id) :
    (climb fuel (Db.find alone.view .organizations id) seen).run answers alone =
      (.ok path, alone) := by
  induction ascends generalizing fuel seen with
  | @root id top =>
      obtain ⟨fuel, rfl⟩ := Nat.exists_eq_succ_of_ne_zero (Nat.ne_of_gt enough)
      cases found : Db.find alone.view .organizations id with
      | none => rfl
      | some organization =>
          rw [climb, run_branch]
          dsimp only
          rw [parent_of_root hierarchy.integrity top found]
          rfl
  | @up id parentId contract path step only names above inductionHypothesis =>
      obtain ⟨fuel, rfl⟩ := Nat.exists_eq_succ_of_ne_zero (Nat.ne_of_gt (Nat.zero_lt_of_lt enough))
      obtain ⟨organization, found, own, parent⟩ := find_of_parentOf hierarchy.integrity step
      have unseen : organization.id ∉ seen := by
        rw [own]
        intro member
        obtain ⟨count, climbs⟩ := below id member
        obtain ⟨depth, root, toRoot, top⟩ := (Ascends.up step only names above).rooted
        cases toRoot.no_cycle top climbs
      have agreed : Db.first alone.view .contracts (fun row : Contract =>
          row.childId = organization.id ∧ row.status = .active) = some contract := by
        rw [own]
        exact (List.head?_filter ..).symm.trans (congrArg List.head? only)
      rw [found, climb, run_branch]
      dsimp only
      rw [parent, run_branch]
      dsimp only
      rw [run_bind, run_require, if_pos unseen]
      dsimp only
      rw [run_scalar_bind, agreed, run_found_bind]
      dsimp only
      rw [run_get_bind, run_bind, inductionHypothesis (Nat.lt_of_succ_lt_succ enough)]
      · rw [own]
        rfl
      · intro other member
        rcases List.mem_cons.mp member with rfl | old
        · exact ⟨0, own ▸ .up step (.here _)⟩
        · obtain ⟨count, climbs⟩ := below other old
          exact ⟨count + 1, climbs.trans (.up step (.here _))⟩

/-- In a hierarchy `edges` returns the path above an organization. -/
theorem serve_edges (answers : Answers Database) (hierarchy : Hierarchy db)
    (present : id ∈ db.nodes.map Node.id) (ascends : Ascends db id path) :
    ((edges id).serve answers db).1 = .ok path := by
  change ((edges id).run answers (.opened db)).1 = .ok path
  have enough := ascends.length_le hierarchy present
  have walked : (climb (db.organizations.length + 2)
      (Db.find (Alone.opened db : Alone Database).view .organizations id) []).run answers
        (.opened db) = (.ok path, .opened db) :=
    run_climb answers (show Hierarchy (Alone.opened db : Alone Database).view from hierarchy)
      ascends (by omega) (by simp)
  unfold edges
  rw [run_bind, run_select]
  dsimp only
  rw [run_get_bind]
  exact congrArg Prod.fst walked

end ControlPlane
