import ControlPlane.Hierarchy.Sessions
import ControlPlane.Ledger.Runs

/-!
# The hierarchy over all interleavings

Any number of operations open organizations at the same time, statement by
statement. Whatever they commit, the closure table lists the paths of the
hierarchy and each step has its contract.
-/

namespace ControlPlane

open ReadCommitted Orm Forest

/-- The sessions that open organizations, link accounts to them, and suspend them; some chats may
open resellers with the bot. -/
inductive TreeOperation (env : Env) (chats : Set Int) : Prog Database (Except Failure Unit) → Prop
  | bootstrapWorkspace (identity : TelegramIdentity) (data : BootstrapIn) :
      TreeOperation env chats (served (bootstrapWorkspace env identity data))
  | createOrg (data : OrgIn) : TreeOperation env chats (served (createOrg env data))
  | webCreateChild (identity : TelegramIdentity) (data : WebChildIn) :
      TreeOperation env chats (served (webCreateChild env identity data))
  | adminCreateReseller (identity : TelegramIdentity) (data : AdminResellerIn) :
      TreeOperation env chats (served (adminCreateReseller env identity data))
  | approveOrder (identity : TelegramIdentity) (orderId : Id) (attach : OrderApproveIn) :
      TreeOperation env chats (served (approveOrder env identity orderId attach))
  | botReviewOrder (chatId : Int) (orderId : Id) (approve : Bool) (reason : String)
      (attach : Option OrderApproveIn) :
      TreeOperation env chats
        (served (Bot.reviewerOrderAction env chatId orderId approve reason attach))
  | botCreateReseller (chatId : Int) (data : Bot.ResellerData) : chatId ∈ chats →
      TreeOperation env chats (served (Bot.createReseller env chatId data))
  | bindActor (data : ActorBindIn) : TreeOperation env chats (served (bindActor data))
  | setResellerStatus (identity : TelegramIdentity) (organizationId : Id) :
      TreeOperation env chats (served (adminSetResellerStatus env identity organizationId))

section

variable {depth : Prop} {env : Env} {chats : Set Int} {nonnegative : depth → 0 ≤ env.maxTreeDepth}

/-- Sessions of programs that keep to the law meet the agreement. -/
theorem meets_served (program : Op α)
    (lawful : ∀ store, (treeAgreement depth env chats nonnegative).inv store →
      program.wp (treeAgreement depth env chats nonnegative)
        (fun _ last => Due (treeAgreement depth env chats nonnegative)
          (treeLaw depth env chats) last) ⟨[], [], [], store⟩) :
    (treeAgreement depth env chats nonnegative).Meets (served program) :=
  Agreement.meets_session fun store invariant =>
    wp_mono _ (wp_after Unmarked (lawful store invariant) _) fun _ _ _ => trivial

/-- Every operation that opens organizations meets the agreement. -/
theorem TreeOperation.meets {program : Prog Database (Except Failure Unit)}
    (operation : TreeOperation env chats program) :
    (treeAgreement depth env chats nonnegative).Meets program := by
  cases operation with
  | bootstrapWorkspace identity data =>
      exact meets_served _ fun _ invariant =>
        wp_bootstrapWorkspace identity data (.fresh Unmarked invariant)
  | createOrg data =>
      exact meets_served _ fun _ invariant => wp_createOrg data (.fresh Unmarked invariant)
  | webCreateChild identity data =>
      exact meets_served _ fun _ _ => wp_webCreateChild identity data
  | adminCreateReseller identity data =>
      exact meets_served _ fun _ _ => wp_adminCreateReseller identity data
  | approveOrder identity orderId attach =>
      exact meets_served _ fun _ invariant =>
        wp_approveOrder identity orderId attach (.fresh Unmarked invariant)
  | botReviewOrder chatId orderId approve reason attach =>
      exact meets_served _ fun _ _ => wp_reviewerOrderAction chatId orderId approve reason attach
  | botCreateReseller chatId data listed =>
      exact meets_served _ fun _ _ => wp_createReseller chatId data listed
  | bindActor data =>
      exact meets_served _ fun _ invariant => wp_sustained _ (.fresh Unmarked invariant)
  | setResellerStatus identity organizationId =>
      exact meets_served _ fun _ invariant => wp_sustained _ (.fresh Unmarked invariant)

end

section

variable {ι : Type} [DecidableEq ι] {env : Env} {chats : Set Int} {store : Db}
  {world : World Database ι (Except Failure Unit)}

/-- Every reachable state keeps the invariant of the hierarchy. -/
theorem hierarchy_sound (depth : Prop) (nonnegative : depth → 0 ≤ env.maxTreeDepth)
    (opening : TreeInvariant depth env chats store)
    (reached : World.Reachable (TreeOperation env chats) store world) :
    TreeInvariant depth env chats world.store :=
  (Agreement.Sound.reachable (C := treeAgreement depth env chats nonnegative)
    (fun _ operation => TreeOperation.meets operation) opening reached).inv

/-- In a hierarchy nothing lies above itself. -/
theorem Hierarchy.no_cycle {db : Db} (hierarchy : Hierarchy db) {id : Id} {count : Nat}
    (circle : Climbs db.parentOf id count id) : count = 0 := by
  cases count with
  | zero => rfl
  | succ count =>
      have present : id ∈ db.nodes.map Node.id := by
        cases circle with
        | up step rest =>
            obtain ⟨node, member, own, _⟩ := mem_of_parentIn step
            exact own ▸ List.mem_map_of_mem member
      obtain ⟨node, member, rfl⟩ := List.mem_map.mp present
      obtain ⟨depth, root, climbs, top⟩ := hierarchy.rooted node member
      exact climbs.no_cycle top circle

/-- A database without organizations is a hierarchy. -/
theorem Hierarchy.empty : Hierarchy {} where
  integrity := Integrity.empty
  named _ member := absurd member List.not_mem_nil
  rooted _ member := absurd member List.not_mem_nil
  closures _ _ _ :=
    ⟨fun member => absurd member List.not_mem_nil,
      fun listed => absurd listed.1 List.not_mem_nil⟩
  contracts _ member := absurd member List.not_mem_nil

/-- In every committed state the closure table lists the paths along the parents with their
lengths, no path is a circle, every organization with a parent has one active contract, which
names that parent, and `edges` returns the steps above an organization in the order of its
closure rows. -/
theorem hierarchy_closed (opening : Hierarchy store)
    (reached : World.Reachable (TreeOperation env Set.univ) store world) :
    (∀ ancestor descendant depth,
      (⟨ancestor, descendant, depth⟩ : Closure) ∈ world.store.closures ↔
        descendant ∈ world.store.organizations.map Organization.id ∧
          Climbs (Db.parentOf world.store) descendant depth ancestor) ∧
      (∀ id count, Climbs (Db.parentOf world.store) id count id → count = 0) ∧
      (∀ organization ∈ world.store.organizations, ∀ parentId,
        organization.parentId = some parentId →
          ∃ contract, Db.activeContracts world.store organization.id = [contract] ∧
            contract.parentId = parentId) ∧
      ∀ organization ∈ world.store.organizations, ∀ answers, ∃ path,
        ((edges organization.id).serve answers world.store).1 = .ok path ∧
          ∀ count ancestor, (path[count]?).map Edge.parentId = some ancestor ↔
            (⟨ancestor, organization.id, count + 1⟩ : Closure) ∈ world.store.closures := by
  have hierarchy : Hierarchy world.store :=
    (hierarchy_sound False False.elim ⟨opening, False.elim⟩ reached).hierarchy
  refine ⟨?_, fun id count => hierarchy.no_cycle, ?_, ?_⟩
  · intro ancestor descendant depth
    rw [← nodes_ids]
    exact hierarchy.closures ancestor descendant depth
  · exact fun organization member parentId parent =>
      hierarchy.contracts organization.node (node_mem member) parentId parent
  · intro organization member answers
    have present : organization.id ∈ (Db.nodes world.store).map Node.id :=
      List.mem_map_of_mem (f := Node.id) (node_mem member)
    obtain ⟨path, ascends⟩ := hierarchy.ascends present
    refine ⟨path, serve_edges answers hierarchy present ascends, fun count ancestor => ?_⟩
    rw [← ascends.climbs_iff, hierarchy.closures]
    exact ⟨fun climbs => ⟨present, climbs⟩, And.right⟩

/-- Operations that are served one after the other, each with new identifiers. -/
def Sample.resold (env : Env) : Db :=
  let root := "aaaaaaaaaaaaaaaaaaaaaaaaaaaaaaaaaaaa"
  let shop := "kkkkkkkkkkkkkkkkkkkkkkkkkkkkkkkkkkkk"
  let founded := ((bootstrapWorkspace env ⟨1, "Admin"⟩
    ⟨env.initialSetupToken, "Root", "root"⟩).serve Sample.answers {}).2
  let opened := ((createOrg env ⟨"Shop", "shop", some root, some 100, 0⟩).serve
    (Sample.answersFrom 10) founded).2
  let staffed := ((bindActor ⟨10, "Member", shop, .resellerAdmin⟩).serve
    (Sample.answersFrom 20) opened).2
  ((Bot.createReseller env 10 ⟨"Corner", "corner", "11", "100", "0"⟩).serve
    (Sample.answersFrom 14) staffed).2

/-- A workspace in which a member of a shop opened a reseller with the bot can be reached. -/
theorem Sample.resold_reachable (env : Env) (listed : 10 ∈ chats) :
    ∃ world : World Database Unit (Except Failure Unit),
      World.Reachable (TreeOperation env chats) {} world ∧ world.store = Sample.resold env := by
  have quiet : (World.initial {} : World Database Unit (Except Failure Unit)).Quiet := fun _ => rfl
  obtain ⟨first, reached, quiet, founded⟩ := quiet_served quiet .refl () Sample.answers
    (TreeOperation.bootstrapWorkspace ⟨1, "Admin"⟩ ⟨env.initialSetupToken, "Root", "root"⟩)
  obtain ⟨second, reached, quiet, opened⟩ := quiet_served quiet reached () (Sample.answersFrom 10)
    (TreeOperation.createOrg
      ⟨"Shop", "shop", some "aaaaaaaaaaaaaaaaaaaaaaaaaaaaaaaaaaaa", some 100, 0⟩)
  obtain ⟨third, reached, quiet, staffed⟩ := quiet_served quiet reached () (Sample.answersFrom 20)
    (TreeOperation.bindActor
      ⟨10, "Member", "kkkkkkkkkkkkkkkkkkkkkkkkkkkkkkkkkkkk", .resellerAdmin⟩)
  obtain ⟨last, reached, quiet, resold⟩ := quiet_served quiet reached () (Sample.answersFrom 14)
    (TreeOperation.botCreateReseller 10 ⟨"Corner", "corner", "11", "100", "0"⟩ listed)
  refine ⟨last, reached, ?_⟩
  rw [resold, staffed, opened, founded]
  rfl

/-- The organizations of the workspace, and who manages the shop. -/
theorem Sample.resold_organizations :
    (Sample.resold Sample.env).organizations.map Organization.slug = ["root", "shop", "corner"] ∧
    (∀ actor ∈ Db.actors (Sample.resold Sample.env), actor.telegramId = 10 →
      ∀ membership ∈ Db.memberships (Sample.resold Sample.env), membership.actorId = actor.id →
        membership.organizationId = "kkkkkkkkkkkkkkkkkkkkkkkkkkkkkkkkkkkk") ∧
    (∀ node ∈ Db.nodes (Sample.resold Sample.env), node.maxDepth = 5) ∧
    Db.parentOf (Sample.resold Sample.env) "kkkkkkkkkkkkkkkkkkkkkkkkkkkkkkkkkkkk" =
      some "aaaaaaaaaaaaaaaaaaaaaaaaaaaaaaaaaaaa" ∧
    Db.parentOf (Sample.resold Sample.env) "aaaaaaaaaaaaaaaaaaaaaaaaaaaaaaaaaaaa" = none ∧
    ∀ node ∈ Db.nodes (Sample.resold Sample.env), node.parentId = none →
      Db.parentOf (Sample.resold Sample.env) node.id = none := by
  decide +kernel

/-- A workspace with a shop and a reseller of the shop is a hierarchy. -/
theorem hierarchy_closed_resold :
    ∃ world : World Database Unit (Except Failure Unit),
      World.Reachable (TreeOperation Sample.env Set.univ) {} world ∧
        world.store.organizations.map Organization.slug = ["root", "shop", "corner"] ∧
        ∀ id count, Climbs (Db.parentOf world.store) id count id → count = 0 := by
  obtain ⟨world, reached, same⟩ := Sample.resold_reachable Sample.env (Set.mem_univ _)
  refine ⟨world, reached, ?_, (hierarchy_closed Hierarchy.empty reached).2.1⟩
  rw [same]
  exact Sample.resold_organizations.1

/-- No organization lies too deep, as long as the chats that open resellers with the bot belong to
organizations above the limits. -/
theorem depth_bounded (nonnegative : 0 ≤ env.maxTreeDepth) (opening : Hierarchy store)
    (shallow : DepthBounded env store)
    (reached : World.Reachable (TreeOperation env chats) store world)
    (allowed : ResellersAllowed env world.store chats) : DepthBounded env world.store :=
  (hierarchy_sound True (fun _ => nonnegative) ⟨opening, fun _ _ => shallow⟩
    reached).bounded trivial allowed

/-- Where a chat may manage the resellers of an organization at the limit, the bot opens one. -/
theorem depth_bounded_fails :
    ¬∀ world : World Database Unit (Except Failure Unit),
      World.Reachable (TreeOperation { Sample.env with maxTreeDepth := 1 } Set.univ) {} world →
        DepthBounded { Sample.env with maxTreeDepth := 1 } world.store := by
  intro bounded
  obtain ⟨world, reached, same⟩ :=
    Sample.resold_reachable { Sample.env with maxTreeDepth := 1 } (Set.mem_univ _)
  have shallow := bounded world reached
  rw [same] at shallow
  let root := "aaaaaaaaaaaaaaaaaaaaaaaaaaaaaaaaaaaa"
  let shop := "kkkkkkkkkkkkkkkkkkkkkkkkkkkkkkkkkkkk"
  let corner := "oooooooooooooooooooooooooooooooooooo"
  let db := Sample.resold { Sample.env with maxTreeDepth := 1 }
  obtain ⟨first, second, lowest, highest⟩ : Db.parentOf db corner = some shop ∧
      Db.parentOf db shop = some root ∧ ⟨corner, some shop, 5⟩ ∈ Db.nodes db ∧
        ⟨root, none, 5⟩ ∈ Db.nodes db := by decide +kernel
  have limit := shallow _ lowest 2 _ highest rfl (.up first (.up second (.here root)))
  exact absurd limit (by decide)

/-- A member of the shop may open a reseller, as the shop lies above the limit. -/
theorem depth_bounded_resold :
    ∃ world : World Database Unit (Except Failure Unit),
      World.Reachable (TreeOperation Sample.env {10}) {} world ∧
        world.store.organizations.map Organization.slug = ["root", "shop", "corner"] ∧
          DepthBounded Sample.env world.store := by
  obtain ⟨world, reached, same⟩ := Sample.resold_reachable Sample.env (Set.mem_singleton _)
  obtain ⟨slugs, organization, deep, above, top, roots⟩ := Sample.resold_organizations
  refine ⟨world, reached, by rw [same]; exact slugs, ?_⟩
  refine depth_bounded (by decide) Hierarchy.empty ?_ reached ?_
  · exact fun node member => absurd member List.not_mem_nil
  · rw [same]
    intro actor member chat membership present own active _
    rw [organization actor member chat membership present own]
    intro depth root rootMember parentless climbs
    obtain ⟨rfl, _⟩ := climbs.root_unique (roots root rootMember parentless)
      (.up above (.here _)) top
    rw [deep root rootMember]
    decide

end

end ControlPlane
