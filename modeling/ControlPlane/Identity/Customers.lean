import ControlPlane.Identity.Resolvers
import ControlPlane.Ledger.Runs

/-!
# Using what an order opened

An approved order opens an organization of its own and makes its requester a
customer of it. The routes of the WebApp act with one membership of an account,
the oldest one. The requester can use what was bought exactly when the new
membership is that one.
-/

namespace ControlPlane

open ReadCommitted Orm

/-! ## Acting for an organization -/

/-- The WebApp acts for an organization when it is called by an account, and lets the account
look at its panel, manage its subscribers and ask for funding. -/
def ActsFor (env : Env) (telegramId : Int) (organizationId : Id) (db : Db) : Prop :=
  ∀ answers, ∃ identity : Identity, identity.organization.id = organizationId ∧
    ((membershipFor env telegramId).serve answers db).1 = .ok identity ∧
      ∀ permission ∈ [Permission.subscriberControl, .requestFunding],
        ((manager env telegramId permission).serve answers db).1 = .ok identity

/-- No other active membership of its account comes before a membership; for the root identity
those in the organization of the setup come first. -/
def Foremost (env : Env) (telegramId : Int) (db : Db) (membership : Membership) : Prop :=
  if env.rootTelegramId = some telegramId ∧ ∃ other ∈ db.activeMemberships membership.actorId,
      other.organizationId = db.settingValue "bootstrap_complete" then
    membership.organizationId = db.settingValue "bootstrap_complete"
  else ∀ other ∈ db.activeMemberships membership.actorId, membershipLe membership other

section

variable {db : Db} {env : Env} {telegramId : Int}

/-- An account has one membership in an organization. -/
theorem Integrity.membership_eq (integrity : Integrity db) {first second : Membership}
    (firstMember : first ∈ db.memberships) (secondMember : second ∈ db.memberships)
    (organization : first.organizationId = second.organizationId)
    (actor : first.actorId = second.actorId) : first = second := by
  exact integrity.eq_of_entry .memberships firstMember rfl (List.mem_singleton_self _)
    secondMember rfl (by simp [Table.uniqueEntries, organization, actor])

/-- The first of several memberships in their order. -/
theorem head?_insertionSort_iff (integrity : Integrity db) {actorId : Id} {membership : Membership}
    (present : membership ∈ db.activeMemberships actorId) :
    ((db.activeMemberships actorId).insertionSort membershipLe).head? = some membership ↔
      ∀ other ∈ db.activeMemberships actorId, membershipLe membership other := by
  have sorted := List.pairwise_insertionSort membershipLe (db.activeMemberships actorId)
  have same (other : Membership) :
      other ∈ (db.activeMemberships actorId).insertionSort membershipLe ↔
        other ∈ db.activeMemberships actorId := List.mem_insertionSort _
  cases rows : (db.activeMemberships actorId).insertionSort membershipLe with
  | nil =>
      rw [rows] at same
      exact absurd ((same membership).mpr present) List.not_mem_nil
  | cons head rest =>
      rw [rows] at sorted same
      rw [List.head?_cons, Option.some.injEq]
      have least : ∀ other ∈ head :: rest, membershipLe head other := by
        intro other member
        rcases List.mem_cons.mp member with rfl | later
        · exact (Std.Total.total other other : membershipLe other other ∨ _).elim id id
        · exact List.rel_of_pairwise_cons sorted later
      constructor
      · rintro rfl other member
        exact least other ((same other).mpr member)
      · intro foremost
        have headMember := (same head).mp List.mem_cons_self
        exact integrity.membershipLe_antisymm (mem_activeMemberships.mp headMember).1
          (mem_activeMemberships.mp present).1 (least membership ((same membership).mpr present))
          (foremost head headMember)

/-- What is picked is an active membership. -/
theorem picked_mem {actorId : Id} {membership : Membership}
    (picked : db.picked env actorId telegramId = some membership) :
    membership ∈ db.activeMemberships actorId := by
  have head : ((db.activeMemberships actorId).insertionSort membershipLe).head? =
      some membership → membership ∈ db.activeMemberships actorId := fun first =>
    (List.mem_insertionSort _).mp (List.mem_of_head? first)
  unfold Db.picked at picked
  dsimp only at picked
  split at picked
  · rcases Option.or_eq_some_iff.mp picked with found | ⟨_, first⟩
    · exact (List.mem_insertionSort _).mp (List.mem_of_find?_eq_some found)
    · exact head first
  · exact head picked

/-- The WebApp picks the foremost membership. -/
theorem picked_eq_some_iff (integrity : Integrity db) {membership : Membership}
    (present : membership ∈ db.activeMemberships membership.actorId) :
    db.picked env membership.actorId telegramId = some membership ↔
      Foremost env telegramId db membership := by
  have head := head?_insertionSort_iff integrity present
  have same (other : Membership) :
      other ∈ (db.activeMemberships membership.actorId).insertionSort membershipLe ↔
        other ∈ db.activeMemberships membership.actorId := List.mem_insertionSort _
  unfold Db.picked Foremost
  dsimp only
  by_cases root : env.rootTelegramId = some telegramId
  · rw [if_pos root]
    by_cases preferred : ∃ other ∈ db.activeMemberships membership.actorId,
        other.organizationId = db.settingValue "bootstrap_complete"
    · rw [if_pos ⟨root, preferred⟩]
      obtain ⟨other, member, own⟩ := preferred
      cases found : ((db.activeMemberships membership.actorId).insertionSort
          membershipLe).find? fun row =>
            row.organizationId = db.settingValue "bootstrap_complete" with
      | none => exact absurd own (by
          simpa using List.find?_eq_none.mp found other ((same other).mpr member))
      | some chosen =>
          have chosenOwn : chosen.organizationId = db.settingValue "bootstrap_complete" := by
            simpa using List.find?_some found
          have chosenMember := mem_activeMemberships.mp
            ((same chosen).mp (List.mem_of_find?_eq_some found))
          rw [Option.some_or, Option.some.injEq]
          constructor
          · rintro rfl
            exact chosenOwn
          · intro mine
            exact integrity.membership_eq chosenMember.1 (mem_activeMemberships.mp present).1
              (chosenOwn.trans mine.symm) chosenMember.2.1
    · rw [if_neg fun both => preferred both.2]
      have none : ((db.activeMemberships membership.actorId).insertionSort
          membershipLe).find? (fun row =>
            row.organizationId = db.settingValue "bootstrap_complete") = none :=
        List.find?_eq_none.mpr fun other member own =>
          preferred ⟨other, (same other).mp member, by simpa using own⟩
      rw [none, Option.none_or]
      exact head
  · rw [if_neg root, if_neg fun both => root both.1]
    exact head

/-- What a route resolves once the permission is there. -/
theorem run_manager (answers : Answers Database) (permission : Permission) {identity : Identity}
    (resolved : ((membershipFor env telegramId).serve answers db).1 = .ok identity)
    (allowed : can (effectiveRole env.rootTelegramId telegramId identity.membership.role)
      permission = true) :
    ((manager env telegramId permission).serve answers db).1 = .ok identity := by
  change ((membershipFor env telegramId).run answers (.opened db)).1 = _ at resolved
  change ((manager env telegramId permission).run answers (.opened db)).1 = _
  unfold manager
  rw [run_bind]
  cases outcome : (membershipFor env telegramId).run answers (.opened db) with
  | mk result later =>
      rw [outcome] at resolved
      cases resolved
      dsimp only
      rw [run_bind, run_require, if_pos allowed]
      rfl

/-- Customers may manage subscribers and ask for funding, and so may the root identity. -/
theorem customer_allowed (permission : Permission)
    (listed : permission ∈ [Permission.subscriberControl, .requestFunding]) :
    can (effectiveRole env.rootTelegramId telegramId .customer) permission = true := by
  unfold effectiveRole
  simp only [List.mem_cons, List.not_mem_nil, or_false] at listed
  split <;> rcases listed with rfl | rfl <;> decide

end

section

variable {ι ρ : Type} [DecidableEq ι] {Allowed : Prog Database ρ → Prop} {store : Db}
  {world : World Database ι ρ} {env : Env}

/-- In every state that any sessions reach, the requester of an approved order can act for the
organization that the order opened exactly when no older membership of the account is in the
way. -/
theorem customer_acts_iff (opening : Integrity store)
    (reached : World.Reachable Allowed store world) :
    ∀ order ∈ world.store.orders, order.status = .approved →
      ∀ organizationId, order.organizationId = some organizationId →
      ∀ actor ∈ world.store.actors, actor.id = order.actorId → actor.status = .active →
      ∀ membership ∈ world.store.memberships, membership.organizationId = organizationId →
        membership.actorId = order.actorId → membership.role = .customer →
        membership.status = .active →
        (ActsFor env actor.telegramId organizationId world.store ↔
          Foremost env actor.telegramId world.store membership) := by
  have integrity : Integrity world.store :=
    (Agreement.Sound.reachable (C := layout.integrity Query Query.Answer)
      (fun program _ => Layout.integrity_meets layout Query Query.Answer program) opening
      reached).inv
  rintro order _ _ _ _ actor actorMember ownActor active membership member rfl ownMembership role
    activeMembership
  generalize world.store = db at *
  have linked := linkedActor_of_mem integrity actorMember rfl active
  have own : actor.id = membership.actorId := ownActor.trans ownMembership.symm
  have present : membership ∈ db.activeMemberships membership.actorId :=
    mem_activeMemberships.mpr ⟨member, rfl, activeMembership⟩
  obtain ⟨organization, stored⟩ := integrity.organization_of_membership member
  have storedKey : organization.id = membership.organizationId :=
    Option.some.inj (Db.find_mem stored).2
  have resolves := fun answers => run_membershipFor answers (.opened db) env actor.telegramId
  have view : (Alone.opened db : Alone Database).view = db := rfl
  rw [← picked_eq_some_iff integrity present]
  constructor
  · intro acts
    obtain ⟨identity, same, resolved, _⟩ := acts Sample.answers
    have outcome := resolves Sample.answers
    rw [view, linked] at outcome
    change ((membershipFor env actor.telegramId).serve Sample.answers db).1 = _ at outcome
    dsimp only at outcome
    rw [resolved, own] at outcome
    cases pick : db.picked env membership.actorId actor.telegramId with
    | none =>
        rw [pick] at outcome
        cases outcome
    | some picked =>
        rw [pick] at outcome
        dsimp only at outcome
        cases found : db.find .organizations picked.organizationId with
        | none =>
            rw [found] at outcome
            cases outcome
        | some chosen =>
            rw [found] at outcome
            cases outcome
            have chosenKey : chosen.id = picked.organizationId :=
              Option.some.inj (Db.find_mem found).2
            have pickedMember := mem_activeMemberships.mp (picked_mem pick)
            rw [integrity.membership_eq pickedMember.1 member (chosenKey.symm.trans same)
              pickedMember.2.1]
  · intro pick answers
    have outcome := resolves answers
    rw [view, linked] at outcome
    change ((membershipFor env actor.telegramId).serve answers db).1 = _ at outcome
    dsimp only at outcome
    rw [own, pick] at outcome
    dsimp only at outcome
    rw [stored] at outcome
    refine ⟨_, storedKey, outcome, fun permission listed => ?_⟩
    refine run_manager answers permission outcome ?_
    rw [role]
    exact customer_allowed permission listed

end

/-! ## A sale -/

/-- The sessions that link accounts and carry orders to their approval. -/
inductive OrderOperation (env : Env) : Prog Database (Except Failure Unit) → Prop
  | bindActor (data : ActorBindIn) : OrderOperation env (served (bindActor data))
  | createOrder (identity : TelegramIdentity) (data : OrderIn) :
      OrderOperation env (served (createOrder env identity data))
  | quoteOrder (identity : TelegramIdentity) (orderId : Id) (data : OrderQuoteIn) :
      OrderOperation env (served (quoteOrder env identity orderId data))
  | confirmOrder (identity : TelegramIdentity) (orderId : Id) :
      OrderOperation env (served (confirmOrder env identity orderId))
  | declarePayment (identity : TelegramIdentity) (orderId : Id) :
      OrderOperation env (served (declarePayment env identity orderId))
  | approveOrder (identity : TelegramIdentity) (orderId : Id) (attach : OrderApproveIn) :
      OrderOperation env (served (approveOrder env identity orderId attach))

namespace Sample

/-- The order that the buyer places. -/
abbrev orderId : Id := "llllllllllllllllllllllllllllllllllll"

/-- An order of a server of the shop from its first step to the declaration of its payment. -/
def paid (start : Nat) (db : Db) : Db :=
  let placed := ((createOrder env ⟨12, "Buyer"⟩ ⟨"panel", none, "Corner", 10, 5, ""⟩).serve
    (answersFrom start) db).2
  let quoted := ((quoteOrder env ⟨11, "Seller"⟩ orderId ⟨500, 0, 100, "card", none⟩).serve
    answers placed).2
  let confirmed := ((confirmOrder env ⟨12, "Buyer"⟩ orderId).serve answers quoted).2
  ((declarePayment env ⟨12, "Buyer"⟩ orderId).serve answers confirmed).2

/-- The order is approved by a seller. -/
def sold (start : Nat) (db : Db) : Db :=
  ((approveOrder env ⟨11, "Seller"⟩ orderId ⟨some 8, none⟩).serve (answersFrom 20)
    (paid start db)).2

/-- The shop hires a seller. -/
def hired : Db := ((bindActor ⟨11, "Seller", "shop", .resellerAdmin⟩).serve answers workspace).2

/-- The buyer is a customer of the shop already. -/
def acquainted : Db :=
  ((bindActor ⟨12, "Buyer", "shop", .customer⟩).serve (answersFrom 5) hired).2

section

variable {ι : Type} [DecidableEq ι] {world : World Database ι (Except Failure Unit)}

theorem sold_reachable (session : ι) (start : Nat) (quiet : world.Quiet)
    (reached : World.Reachable (OrderOperation env) workspace world) :
    ∃ last : World Database ι (Except Failure Unit),
      World.Reachable (OrderOperation env) workspace last ∧ last.store = sold start world.store := by
  obtain ⟨first, reached, quiet, placed⟩ := quiet_served quiet reached session
    (answersFrom start)
    (OrderOperation.createOrder ⟨12, "Buyer"⟩ ⟨"panel", none, "Corner", 10, 5, ""⟩)
  obtain ⟨second, reached, quiet, quoted⟩ := quiet_served quiet reached session answers
    (OrderOperation.quoteOrder ⟨11, "Seller"⟩ orderId ⟨500, 0, 100, "card", none⟩)
  obtain ⟨third, reached, quiet, confirmed⟩ := quiet_served quiet reached session answers
    (OrderOperation.confirmOrder ⟨12, "Buyer"⟩ orderId)
  obtain ⟨fourth, reached, quiet, paid⟩ := quiet_served quiet reached session answers
    (OrderOperation.declarePayment ⟨12, "Buyer"⟩ orderId)
  obtain ⟨last, reached, quiet, approved⟩ := quiet_served quiet reached session (answersFrom 20)
    (OrderOperation.approveOrder ⟨11, "Seller"⟩ orderId ⟨some 8, none⟩)
  refine ⟨last, reached, ?_⟩
  rw [approved, paid, confirmed, quoted, placed]
  rfl

/-- The shop hires its seller. -/
theorem hired_reachable (session : ι) :
    ∃ last : World Database ι (Except Failure Unit), last.Quiet ∧
      World.Reachable (OrderOperation env) workspace last ∧ last.store = hired := by
  have quiet : (World.initial workspace : World Database ι (Except Failure Unit)).Quiet :=
    fun _ => rfl
  obtain ⟨last, reached, quiet, same⟩ := quiet_served quiet .refl session answers
    (OrderOperation.bindActor ⟨11, "Seller", "shop", .resellerAdmin⟩)
  exact ⟨last, quiet, reached, same⟩

end

end Sample

/-- A buyer without an older membership acts for what the order opened. -/
theorem customer_acts_sold :
    ∃ world : World Database Unit (Except Failure Unit),
      World.Reachable (OrderOperation Sample.env) Sample.workspace world ∧
        ActsFor Sample.env 12 "uuuuuuuuuuuuuuuuuuuuuuuuuuuuuuuuuuuu" world.store := by
  obtain ⟨before, quiet, reached, hired⟩ := Sample.hired_reachable ()
  obtain ⟨world, reached, same⟩ := Sample.sold_reachable () 9 quiet reached
  rw [hired] at same
  let actor : Actor := ⟨"jjjjjjjjjjjjjjjjjjjjjjjjjjjjjjjjjjjj", 12, "Corner", .active⟩
  let membership : Membership := ⟨"xxxxxxxxxxxxxxxxxxxxxxxxxxxxxxxxxxxx",
    "uuuuuuuuuuuuuuuuuuuuuuuuuuuuuuuuuuuu", actor.id, .customer, .active, 0⟩
  obtain ⟨⟨order, ordered, approved, opened, requester⟩, linked, joined, foremost⟩ :
      (∃ order ∈ (Sample.sold 9 Sample.hired).orders, order.status = .approved ∧
        order.organizationId = some membership.organizationId ∧ order.actorId = actor.id) ∧
      actor ∈ (Sample.sold 9 Sample.hired).actors ∧
      membership ∈ (Sample.sold 9 Sample.hired).memberships ∧
      ∀ other ∈ (Sample.sold 9 Sample.hired).activeMemberships actor.id,
        membershipLe membership other := by
    decide +kernel
  rw [← same] at ordered linked joined foremost
  refine ⟨world, reached, (customer_acts_iff Sample.integrity reached order ordered approved _ opened
    actor linked requester.symm rfl membership joined rfl requester.symm rfl rfl).mpr ?_⟩
  unfold Foremost
  rw [if_neg fun both => absurd both.1 (by decide)]
  exact foremost

/-- A buyer who was a customer of the shop before cannot act for what the order opened: every route
acts for the shop. -/
theorem customer_acts_fails :
    ∃ world : World Database Unit (Except Failure Unit),
      World.Reachable (OrderOperation Sample.env) Sample.workspace world ∧
        ∃ order ∈ world.store.orders, order.status = .approved ∧
          ∃ organizationId, order.organizationId = some organizationId ∧
            ∃ actor ∈ world.store.actors, actor.id = order.actorId ∧ actor.status = .active ∧
              ∃ membership ∈ world.store.memberships,
                membership.organizationId = organizationId ∧
                  membership.actorId = order.actorId ∧ membership.role = .customer ∧
                    membership.status = .active ∧
                      ¬ActsFor Sample.env actor.telegramId organizationId world.store := by
  obtain ⟨before, quiet, reached, hired⟩ := Sample.hired_reachable ()
  obtain ⟨second, reached, quiet, acquainted⟩ := quiet_served quiet reached ()
    (Sample.answersFrom 5) (OrderOperation.bindActor ⟨12, "Buyer", "shop", .customer⟩)
  obtain ⟨world, reached, same⟩ := Sample.sold_reachable () 10 quiet reached
  rw [show second.store = Sample.acquainted by rw [Sample.acquainted, ← hired, acquainted]] at same
  obtain ⟨⟨order, ordered, approved, opened, actor, linked, requester, active, chat, membership,
    joined, organization, own, role, activeMembership⟩, shop⟩ :
      (∃ order ∈ (Sample.sold 10 Sample.acquainted).orders, order.status = .approved ∧
        order.organizationId = some "uuuuuuuuuuuuuuuuuuuuuuuuuuuuuuuuuuuu" ∧
        ∃ actor ∈ (Sample.sold 10 Sample.acquainted).actors, actor.id = order.actorId ∧
          actor.status = .active ∧ actor.telegramId = 12 ∧
          ∃ membership ∈ (Sample.sold 10 Sample.acquainted).memberships,
            membership.organizationId = "uuuuuuuuuuuuuuuuuuuuuuuuuuuuuuuuuuuu" ∧
              membership.actorId = order.actorId ∧ membership.role = .customer ∧
                membership.status = .active) ∧
      (((membershipFor Sample.env 12).serve Sample.answers
        (Sample.sold 10 Sample.acquainted)).1.map
        fun identity => identity.organization.id).toOption = some "shop" := by
    decide +kernel
  rw [← same] at ordered linked joined shop
  refine ⟨world, reached, order, ordered, approved, _, opened, actor, linked, requester, active,
    membership, joined, organization, own, role, activeMembership, fun acts => ?_⟩
  obtain ⟨identity, other, resolved, _⟩ := acts Sample.answers
  rw [chat] at resolved
  rw [resolved] at shop
  have equal : identity.organization.id = "shop" := by
    simpa [Except.map, Except.toOption] using shop
  rw [other] at equal
  exact absurd equal (by decide)

end ControlPlane
