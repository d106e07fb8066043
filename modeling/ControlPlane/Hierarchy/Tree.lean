import ControlPlane.Identity.Resolvers
import ControlPlane.Library.Forest

/-!
# The reseller hierarchy

The parents of the organizations form a forest. The closure table lists its
paths with their lengths, and each step has its contract. Both are kept by the
rows that are written along with a new organization.
-/

namespace ControlPlane

open ReadCommitted Orm Forest

/-! ## Organizations as a forest -/

/-- An organization as a node of the hierarchy. -/
structure Node where
  id : Id
  parentId : Option Id
  maxDepth : Int
  deriving DecidableEq

/-- The node of an organization. -/
def Organization.node (organization : Organization) : Node :=
  ⟨organization.id, organization.parentId, organization.maxDepth⟩

/-- The parent of a node with an id. -/
def parentIn (nodes : List Node) (id : Id) : Option Id :=
  (nodes.find? fun node => node.id = id).bind Node.parentId

/-- Further nodes do not change the parents of the nodes that were there. -/
theorem parentIn_append {nodes : List Node} {id : Id} (present : id ∈ nodes.map Node.id)
    (more : List Node) : parentIn (nodes ++ more) id = parentIn nodes id := by
  obtain ⟨node, member, rfl⟩ := List.mem_map.mp present
  obtain ⟨found, first⟩ : ∃ found, nodes.find? (fun other => other.id = node.id) = some found :=
    Option.isSome_iff_exists.mp (List.find?_isSome.mpr ⟨node, member, by simp⟩)
  unfold parentIn
  rw [List.find?_append, first]
  rfl

/-- The parent of a new node. -/
theorem parentIn_append_new {nodes : List Node} {node : Node}
    (absent : node.id ∉ nodes.map Node.id) :
    parentIn (nodes ++ [node]) node.id = node.parentId := by
  have none : nodes.find? (fun other => other.id = node.id) = none := by
    refine List.find?_eq_none.mpr fun other member same => absent ?_
    exact List.mem_map.mpr ⟨other, member, by simpa using same⟩
  unfold parentIn
  rw [List.find?_append, none]
  simp

/-- What has a parent is a node. -/
theorem mem_of_parentIn {nodes : List Node} {id parentId : Id}
    (step : parentIn nodes id = some parentId) :
    ∃ node ∈ nodes, node.id = id ∧ node.parentId = some parentId := by
  unfold parentIn at step
  obtain ⟨node, found, own⟩ := Option.bind_eq_some_iff.mp step
  exact ⟨node, List.mem_of_find?_eq_some found, by simpa using List.find?_some found, own⟩

namespace Db

/-- The nodes of the hierarchy. -/
def nodes (db : Db) : List Node := db.organizations.map Organization.node

/-- The parent of an organization. -/
abbrev parentOf (db : Db) : Id → Option Id := parentIn db.nodes

/-- The closure rows of an organization. -/
def ancestors (db : Db) (id : Id) : List Closure :=
  db.closures.filter fun row => row.descendantId = id

/-- The contracts in force for an organization. -/
def activeContracts (db : Db) (id : Id) : List Contract :=
  db.contracts.filter fun row => row.childId = id ∧ row.status = .active

end Db

/-- The closure table lists the paths of the hierarchy, and each step has its contract. -/
structure Hierarchy (db : Db) : Prop where
  integrity : Integrity db
  named : ∀ node ∈ db.nodes, node.id ≠ ""
  rooted : ∀ node ∈ db.nodes, Rooted db.parentOf node.id
  closures : ∀ ancestor descendant depth, (⟨ancestor, descendant, depth⟩ : Closure) ∈ db.closures ↔
    descendant ∈ db.nodes.map Node.id ∧ Climbs db.parentOf descendant depth ancestor
  contracts : ∀ node ∈ db.nodes, ∀ parentId, node.parentId = some parentId →
    ∃ contract, db.activeContracts node.id = [contract] ∧ contract.parentId = parentId

section

variable {db : Db}

theorem node_mem {organization : Organization} (member : organization ∈ db.organizations) :
    organization.node ∈ db.nodes := List.mem_map_of_mem member

/-- The ids of the nodes are those of the organizations. -/
theorem nodes_ids (db : Db) : db.nodes.map Node.id = db.organizations.map Organization.id := by
  unfold Db.nodes
  rw [List.map_map]
  rfl

/-- Each id belongs to one organization. -/
theorem Integrity.organizationIds (integrity : Integrity db) :
    (db.organizations.map Organization.id).Nodup := by
  have keys := integrity.keys .organizations
  change (db.organizations.filterMap (some ∘ Organization.id)).Nodup at keys
  rwa [List.filterMap_eq_map] at keys

/-- The parent of an organization exists. -/
theorem Integrity.parent_mem (integrity : Integrity db) {id parentId : Id}
    (step : db.parentOf id = some parentId) : parentId ∈ db.nodes.map Node.id := by
  obtain ⟨node, member, _, own⟩ := mem_of_parentIn step
  obtain ⟨organization, present, rfl⟩ := List.mem_map.mp member
  have listed : (⟨.organizations, parentId⟩ : Σ table : Table, table.Key) ∈
      @Table.foreignKeys .organizations organization := by
    change organization.parentId = some parentId at own
    simp [Table.foreignKeys, own]
  obtain ⟨row, rowMember, same⟩ := Layout.has_eq_true.mp
    (integrity.parents .organizations organization present ⟨.organizations, parentId⟩ listed)
  exact List.mem_map.mpr ⟨_, node_mem rowMember, Option.some.inj same⟩

/-- Steps from an organization lead to organizations. -/
theorem Integrity.climbs_mem (integrity : Integrity db) {id ancestor : Id} {depth : Nat}
    (climbs : Climbs db.parentOf id depth ancestor) (present : id ∈ db.nodes.map Node.id) :
    ancestor ∈ db.nodes.map Node.id := by
  induction climbs with
  | here => exact present
  | up step _ inductionHypothesis => exact inductionHypothesis (integrity.parent_mem step)

/-- The child of a contract exists. -/
theorem Integrity.contract_child_mem (integrity : Integrity db) {contract : Contract}
    (member : contract ∈ db.contracts) : contract.childId ∈ db.nodes.map Node.id := by
  obtain ⟨row, rowMember, same⟩ := Layout.has_eq_true.mp
    (integrity.parents .contracts contract member ⟨.organizations, contract.childId⟩
      (by simp [Table.foreignKeys]))
  exact List.mem_map.mpr ⟨_, node_mem rowMember, Option.some.inj same⟩

/-- The parent of an organization, found by its id. -/
theorem parentOf_eq (integrity : Integrity db) {organization : Organization}
    (member : organization ∈ db.organizations) :
    db.parentOf organization.id = organization.parentId := by
  have found := @Integrity.find_eq_some _ integrity .organizations _ _ member rfl
  have same : (fun node : Node => decide (node.id = organization.id)) ∘ Organization.node =
      fun row : Organization =>
        decide (@Table.primaryKey .organizations row = some organization.id) := by
    funext row
    exact decide_eq_decide.mpr (by simp [Organization.node, Table.primaryKey])
  unfold Db.parentOf parentIn Db.nodes
  rw [List.find?_map, same, show db.organizations.find? _ = some organization from found]
  rfl

end

/-- The hierarchy consists of its tables. -/
theorem Hierarchy.congr {db later : Db} (hierarchy : Hierarchy db) (nodes : later.nodes = db.nodes)
    (closures : later.closures = db.closures) (contracts : later.contracts = db.contracts)
    (integrity : Integrity later) : Hierarchy later := by
  obtain ⟨_, named, rooted, paths, agreed⟩ := hierarchy
  unfold Db.parentOf at rooted paths
  unfold Db.activeContracts at agreed
  constructor
  · exact integrity
  · rwa [nodes]
  · unfold Db.parentOf
    rwa [nodes]
  · unfold Db.parentOf
    rwa [nodes, closures]
  · unfold Db.activeContracts
    rwa [nodes, contracts]

/-! ## A new organization -/

/-- The rows that are written along with a new organization. -/
structure Opening where
  organization : Organization
  /-- The closure rows of the parent. -/
  ancestors : List Closure
  contract : Option Contract

namespace Opening

variable (opening : Opening)

/-- The closure rows of the new organization. -/
def closures : List Closure :=
  ⟨opening.organization.id, opening.organization.id, 0⟩ ::
    opening.ancestors.map fun edge => ⟨edge.ancestorId, opening.organization.id, edge.depth + 1⟩

/-- The statements of an opening. -/
def statements : List Database.Write :=
  .insert .organizations opening.organization ::
    opening.closures.map (.insert .closures ·) ++
      opening.contract.toList.map (.insert .contracts ·)

/-- An opening that belongs below an organization of the database, or stands alone. -/
structure Fits (db : Db) : Prop where
  named : opening.organization.id ≠ ""
  ancestors : opening.ancestors =
    (opening.organization.parentId.map db.ancestors).getD []
  contract : ∀ parentId, opening.organization.parentId = some parentId →
    parentId ∈ db.nodes.map Node.id ∧ ∃ contract, opening.contract = some contract ∧
      contract.parentId = parentId ∧ contract.childId = opening.organization.id ∧
        contract.status = .active
  alone : opening.organization.parentId = none → opening.contract = none

/-- The hierarchy tables grew by an opening and nothing else. -/
structure Grows (db later : Db) : Prop where
  nodes : later.nodes = db.nodes ++ [opening.organization.node]
  closures : later.closures = db.closures ++ opening.closures
  contracts : later.contracts = db.contracts ++ opening.contract.toList

variable {opening} {db later : Db}

/-- The id of a new organization is new. -/
theorem Grows.fresh (grows : opening.Grows db later) (integrity : Integrity later) :
    opening.organization.id ∉ db.nodes.map Node.id := by
  have ids := integrity.organizationIds
  rw [← nodes_ids, grows.nodes, List.map_append, List.nodup_append'] at ids
  exact fun member => ids.2.2 member (List.mem_singleton_self _)

/-- The parents of the organizations that were there do not change. -/
theorem Grows.parentOf_eq (grows : opening.Grows db later) {id : Id}
    (present : id ∈ db.nodes.map Node.id) : later.parentOf id = db.parentOf id := by
  unfold Db.parentOf
  rw [grows.nodes]
  exact parentIn_append present _

/-- The parent of the new organization. -/
theorem Grows.parentOf_new (grows : opening.Grows db later) (integrity : Integrity later) :
    later.parentOf opening.organization.id = opening.organization.parentId := by
  unfold Db.parentOf
  rw [grows.nodes]
  exact @parentIn_append_new _ opening.organization.node (grows.fresh integrity)

/-- What is above an organization stays above it. -/
theorem Grows.climbs (grows : opening.Grows db later) {id ancestor : Id} {depth : Nat}
    (climbs : Climbs db.parentOf id depth ancestor) : Climbs later.parentOf id depth ancestor := by
  refine climbs.mono fun node above step => ?_
  obtain ⟨row, member, own, _⟩ := mem_of_parentIn step
  rw [grows.parentOf_eq (own ▸ List.mem_map_of_mem member)]
  exact step

/-- Nothing new is above an organization that was there. -/
theorem Grows.climbs_iff (grows : opening.Grows db later) (before : Integrity db)
    (integrity : Integrity later) {id ancestor : Id} {depth : Nat}
    (present : id ∈ db.nodes.map Node.id) :
    Climbs later.parentOf id depth ancestor ↔ Climbs db.parentOf id depth ancestor := by
  have fresh := grows.fresh integrity
  have different : id ≠ opening.organization.id := fun same => fresh (same ▸ present)
  refine ⟨fun climbs => climbs.restrict different (fun node other => ?_) fun node step => ?_,
    grows.climbs⟩
  · by_cases known : node ∈ db.nodes.map Node.id
    · exact grows.parentOf_eq known
    · unfold Db.parentOf parentIn
      rw [grows.nodes, List.find?_append]
      have none : db.nodes.find? (fun row => row.id = node) = none := by
        refine List.find?_eq_none.mpr fun row member same => known ?_
        exact List.mem_map.mpr ⟨row, member, by simpa using same⟩
      rw [none]
      have unlike : opening.organization.node.id ≠ node := fun same => other same.symm
      simp [unlike]
  · exact fresh (before.parent_mem step)

end Opening

/-- The closure rows of the parent are the ones an opening starts from. -/
theorem Opening.Fits.mem_ancestors {opening : Opening} {db : Db} (fits : opening.Fits db)
    {edge : Closure} (member : edge ∈ opening.ancestors) :
    ∃ parentId, opening.organization.parentId = some parentId ∧ edge ∈ db.ancestors parentId := by
  rw [fits.ancestors] at member
  cases parent : opening.organization.parentId with
  | none => simp [parent] at member
  | some parentId => exact ⟨parentId, rfl, by simpa [parent] using member⟩

/-- A new organization keeps the hierarchy. -/
theorem Hierarchy.open {db later : Db} (hierarchy : Hierarchy db) {opening : Opening}
    (fits : opening.Fits db) (grows : opening.Grows db later) (integrity : Integrity later) :
    Hierarchy later := by
  have fresh := grows.fresh integrity
  have fromAbove := grows.parentOf_new integrity
  have old : ∀ {id depth ancestor}, id ∈ db.nodes.map Node.id →
      (Climbs later.parentOf id depth ancestor ↔ Climbs db.parentOf id depth ancestor) :=
    fun present => grows.climbs_iff hierarchy.integrity integrity present
  have ids : later.nodes.map Node.id = db.nodes.map Node.id ++ [opening.organization.id] := by
    rw [grows.nodes, List.map_append]
    rfl
  refine ⟨integrity, ?_, ?_, ?_, ?_⟩
  · intro node member
    rw [grows.nodes, List.mem_append, List.mem_singleton] at member
    rcases member with known | rfl
    · exact hierarchy.named node known
    · exact fits.named
  · have keptRooted : ∀ node ∈ db.nodes, Rooted later.parentOf node.id := by
      intro node member
      obtain ⟨depth, root, climbs, top⟩ := hierarchy.rooted node member
      have present := hierarchy.integrity.climbs_mem climbs (List.mem_map_of_mem member)
      exact ⟨depth, root, grows.climbs climbs, (grows.parentOf_eq present).trans top⟩
    intro node member
    rw [grows.nodes, List.mem_append, List.mem_singleton] at member
    rcases member with known | rfl
    · exact keptRooted node known
    · change Rooted later.parentOf opening.organization.id
      cases parent : opening.organization.parentId with
      | none => exact ⟨0, _, .here _, fromAbove.trans parent⟩
      | some parentId =>
          obtain ⟨above, aboveMember, own⟩ := List.mem_map.mp (fits.contract parentId parent).1
          exact (own ▸ keptRooted above aboveMember).up (fromAbove.trans parent)
  · intro ancestor descendant depth
    rw [grows.closures, ids, List.mem_append, List.mem_append, List.mem_singleton]
    constructor
    · rintro (known | new)
      · obtain ⟨present, climbs⟩ := (hierarchy.closures ..).mp known
        exact ⟨.inl present, grows.climbs climbs⟩
      · rcases List.mem_cons.mp new with self | above
        · cases self
          exact ⟨.inr rfl, .here _⟩
        · obtain ⟨edge, edgeMember, same⟩ := List.mem_map.mp above
          cases same
          obtain ⟨parentId, parent, listed⟩ := fits.mem_ancestors edgeMember
          have climbs := ((hierarchy.closures ..).mp (List.mem_of_mem_filter listed)).2
          have below : edge.descendantId = parentId := by simpa using (List.mem_filter.mp listed).2
          exact ⟨.inr rfl, .up (fromAbove.trans parent) (below ▸ grows.climbs climbs)⟩
    · rintro ⟨known | rfl, climbs⟩
      · exact .inl ((hierarchy.closures ..).mpr ⟨known, (old known).mp climbs⟩)
      · refine .inr (List.mem_cons.mpr ?_)
        cases climbs with
        | here => exact .inl rfl
        | @up _ above _ depth step rest =>
            rw [fromAbove] at step
            have present := (fits.contract above step).1
            have listed : (⟨ancestor, above, depth⟩ : Closure) ∈ opening.ancestors := by
              rw [fits.ancestors, step]
              exact List.mem_filter.mpr
                ⟨(hierarchy.closures ..).mpr ⟨present, (old present).mp rest⟩, by simp⟩
            exact .inr (List.mem_map.mpr ⟨_, listed, rfl⟩)
  · intro node member parentId parent
    unfold Db.activeContracts
    rw [grows.contracts, List.filter_append]
    rw [grows.nodes, List.mem_append, List.mem_singleton] at member
    rcases member with known | rfl
    · obtain ⟨contract, only, names⟩ := hierarchy.contracts node known parentId parent
      refine ⟨contract, ?_, names⟩
      rw [show db.contracts.filter _ = [contract] from only, List.append_right_eq_self]
      refine List.filter_eq_nil_iff.mpr fun other otherMember => ?_
      have elsewhere : other.childId ≠ node.id := by
        intro same
        cases own : opening.organization.parentId with
        | none => simp [fits.alone own] at otherMember
        | some above =>
            obtain ⟨_, agreed, written, _, child, _⟩ := fits.contract above own
            rw [written, Option.mem_toList] at otherMember
            cases otherMember
            exact fresh (child ▸ same ▸ List.mem_map_of_mem known)
      simp [elsewhere]
    · obtain ⟨_, agreed, written, above, child, active⟩ := fits.contract parentId parent
      refine ⟨agreed, ?_, above⟩
      have none : db.contracts.filter (fun row =>
          row.childId = opening.organization.id ∧ row.status = .active) = [] := by
        refine List.filter_eq_nil_iff.mpr fun other otherMember => ?_
        have elsewhere : other.childId ≠ opening.organization.id := fun same =>
          fresh (same ▸ hierarchy.integrity.contract_child_mem otherMember)
        simp [elsewhere]
      rw [show opening.organization.node.id = opening.organization.id from rfl, none, written]
      simp [child, active]

end ControlPlane
