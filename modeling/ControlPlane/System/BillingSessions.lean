import ControlPlane.Library.Concerns
import ControlPlane.System.Billing
import ControlPlane.Upholding

/-!
# Sessions that charge

A session that observes a reading walks up the hierarchy, pays the settlements
edge by edge and then writes the accepted reading. Whether a transfer finds its
transaction or writes it, the key of the edge is booked from then on; a cascade
that stops leaves transfers behind that are priced all the same.
-/

namespace ControlPlane

open ReadCommitted Orm DecimalArithmetic

namespace Billing

/-! ## The law of a session -/

/-- New rows of the hierarchy, new bindings and servers, and new coefficients of servers. -/
def Structural : Database.Write → Prop
  | .insert .organizations _ | .insert .contracts _ | .insert .bindings _ => True
  | .insert .panels _ => True
  | .update .panels _ columns => columns.usageCoefficient ≠ none
  | _ => False

/-- The statements that charges are not about; where a session observes readings, it writes nothing
that these depend on. -/
def Harmless (observing : Prop) (statement : Database.Write) : Prop :=
  ¬Delicate statement ∧ (observing → ¬Structural statement)

/-- What a session has written is lawful. -/
def billingLaw (commerce : Commerce) (observing : Prop) : Law Database := fun _ log db =>
  Posts commerce log db (log.filter billingTouches) ∧
    (observing → ∀ statement ∈ log, ¬Structural statement)

/-- A session whose writes are lawful. -/
abbrev Rightful (commerce : Commerce) (observing : Prop) (point : Point Database) : Prop :=
  Due (billing commerce) (billingLaw commerce observing) point

/-- A session whose writes are lawful, and that knows something. -/
abbrev Knows (commerce : Commerce) (observing : Prop) (known : Law Database)
    (point : Point Database) : Prop :=
  Due (billing commerce) ((billingLaw commerce observing).both known) point

/-- A session whose writes are lawful, and that knows something once it returns. -/
abbrev Gaining (commerce : Commerce) (observing : Prop) (gained : α → Law Database) :
    Except Failure α → Point Database → Prop :=
  Gains (billing commerce) (billingLaw commerce observing) gained

/-- Operations that keep the writes of a session lawful. -/
abbrev Bills (commerce : Commerce) (observing : Prop) (program : Op α) : Prop :=
  Sustains (billing commerce) (Harmless observing) (billingLaw commerce observing)
    program

variable {commerce : Commerce} {observing : Prop}

theorem billingTouches_eq_false {statement : Database.Write} :
    billingTouches statement = false ↔ ¬Delicate statement := by
  simp only [billingTouches, decide_eq_false_iff_not]

instance : OffPanel (billing commerce) := ⟨fun _ _ => trivial⟩

instance : (billing commerce).Shared where
  le_replay _ committed _ := committed.2.proper.retained

instance (query : Query) : (billing commerce).Asks query := ⟨trivial⟩

instance : (billing commerce).Sanctions (Harmless observing) (billingLaw commerce observing) where
  held _ lawful := lawful
  benign {_ first last statement store} harmless lawful := by
    have subset : first ++ last ⊆ first ++ statement :: last :=
      (List.Sublist.append_left (List.sublist_cons_self statement last) first).subset
    refine ⟨?_, fun observes other member => ?_⟩
    · rw [List.filter_append, List.filter_cons_of_neg
        (by simp [billingTouches_eq_false.mpr harmless.1]), ← List.filter_append]
      exact lawful.1.grow subset
    · rcases List.mem_append.mp member with early | late
      · exact lawful.2 observes other (List.mem_append_left _ early)
      · rcases List.mem_cons.mp late with rfl | late
        · exact harmless.2 observes
        · exact lawful.2 observes other (List.mem_append_right _ late)
  nil _ := ⟨.nil, fun _ _ member => absurd member List.not_mem_nil⟩
  commit _ accepted lawful := ⟨accepted, lawful.1⟩

instance (known : Law Database) [known.Steady] : known.Tolerates (Harmless observing) :=
  Law.Steady.tolerates known _

instance : Everyday (Harmless observing) where
  daily statement daily := by
    cases statement with
    | insert table row =>
        replace daily : table ∈ dailyTables := daily
        cases table with
        | organizations | contracts | transactions | entries | panels | bindings | usages =>
            exact absurd daily (by decide)
        | _ => exact ⟨id, fun _ => id⟩
    | update table key columns =>
        refine ⟨by cases table <;> exact id, fun _ => ?_⟩
        cases table with
        | panels => exact not_not.mpr daily
        | _ => exact id
    | delete table key => exact ⟨not_not.mpr daily, fun _ => id⟩

instance : Admitted (Harmless observing) .outbox :=
  ⟨fun _ => ⟨id, fun _ => id⟩, fun _ _ => ⟨id, fun _ => id⟩⟩
instance : Insertable (Harmless observing) .planCategories := ⟨fun _ => ⟨id, fun _ => id⟩⟩
instance : Insertable (Harmless observing) .plans := ⟨fun _ => ⟨id, fun _ => id⟩⟩
instance : Insertable (Harmless observing) .fundingRequests := ⟨fun _ => ⟨id, fun _ => id⟩⟩
instance : Insertable (Harmless observing) .orders := ⟨fun _ => ⟨id, fun _ => id⟩⟩
instance : Amended (Harmless observing) .organizations := ⟨fun _ _ => ⟨id, fun _ => id⟩⟩
instance : Amended (Harmless observing) .orders := ⟨fun _ _ => ⟨id, fun _ => id⟩⟩
instance : Admitted (Harmless observing) .approvals :=
  ⟨fun _ => ⟨id, fun _ => id⟩, fun _ _ => ⟨id, fun _ => id⟩⟩
instance (role : Role) : Enrolls (Harmless observing) role :=
  ⟨fun _ _ _ _ => ⟨id, fun _ => id⟩⟩
instance : Suspends (Harmless observing) := ⟨fun _ => ⟨id, fun _ => id⟩⟩
instance : Insertable (Harmless False) .organizations := ⟨fun _ => ⟨id, False.elim⟩⟩
instance : Insertable (Harmless False) .contracts := ⟨fun _ => ⟨id, False.elim⟩⟩
instance : Amended (Harmless False) .panels := ⟨fun _ _ => ⟨id, False.elim⟩⟩
instance (packages : Packages) : Registers (Harmless False) packages :=
  ⟨fun _ _ _ => ⟨id, False.elim⟩⟩
instance : Binds (Harmless False) :=
  ⟨fun _ generated => ⟨not_not.mpr generated, False.elim⟩⟩

variable {known : Law Database} {point : Point Database}

/-! ## What a session sees -/

/-- What a session has written so far. -/
theorem proper (due : Rightful commerce observing point) :
    Proper point.log := fun statement member =>
  due.now.1.proper statement (List.mem_append_left _ member)

/-- What a session sees keeps the constraints of the database. -/
theorem integrity_view (due : Rightful commerce observing point) : layout.Integrity point.view :=
  due.inv.integrity.replay (due.accepted _ (.refl due.inv))

/-- A wallet that a session sees belongs to its owner from then on. -/
theorem due_owning (due : Knows commerce observing known point) {id : Id} {owner : String}
    (owned : (id, owner) ∈ Db.owners point.view) :
    Knows commerce observing (known.both (owns id owner)) point := by
  refine due.learn _ fun later rely => ?_
  rw [show Db.owners point.view = point.store.owners ++ opened point.log from
    (proper due.plain).owners] at owned
  rcases List.mem_append.mp owned with old | new
  · exact List.mem_append_left _ (Db.Retained.owners rely.le old)
  · exact List.mem_append_right _ (opened_subset (List.subset_append_left _ _) new)

/-- Something is booked, or will be with the writes of the session. -/
def booked (key : String) : Law Database := fun _ log db => Booked log db key

instance (key : String) : (booked key).Steady where
  grow _ longer holds := holds.grow longer.subset

/-- A transaction that a session sees is booked from then on. -/
theorem due_booked (due : Knows commerce observing known point) {transaction : Transaction}
    (seen : transaction ∈ Db.transactions point.view) :
    Knows commerce observing (known.both (booked transaction.idempotencyKey)) point := by
  refine due.learn _ fun later rely => ⟨transaction, ?_, rfl⟩
  have origin := @Layout.every_replay layout Table.transactions Query Query.Answer
    (fun row : Transaction => row ∈ point.store.transactions ∨
      .insert .transactions row ∈ point.log) point.log (fun _ inserted => .inr inserted)
    (fun _ columns => nomatch columns) point.store (fun _ there => .inl there) transaction seen
  rcases origin with old | new
  · exact .inl (Db.Retained.transaction rely.le old)
  · exact .inr (List.mem_append_left _ new)

/-! ## Transfers -/

/-- A posting more. -/
theorem lawful_post {held : List (Held Database)} {log : List Database.Write} {db : Db}
    {rows : List Database.Write} (lawful : billingLaw commerce observing held log db)
    (posting : Posting commerce log db rows)
    (delicate : ∀ statement ∈ rows, Delicate statement ∧ ¬Structural statement) :
    billingLaw commerce observing held (log ++ rows) db := by
  refine ⟨?_, fun observes statement member => ?_⟩
  · have touched : rows.filter billingTouches = rows :=
      List.filter_eq_self.mpr fun statement member => by
        simpa only [billingTouches, decide_eq_true_eq] using (delicate statement member).1
    rw [List.filter_append, touched]
    exact (lawful.1.concat posting).grow (List.subset_append_left _ _)
  · rcases List.mem_append.mp member with early | late
    · exact lawful.2 observes statement early
    · exact (delicate statement late).2

variable [known.Steady]

/-- Resolving a wallet returns one of the owner. -/
theorem wp_account (owner : String) (due : Knows commerce observing known point) :
    (account owner).wp (billing commerce)
      (Gaining commerce observing fun wallet => known.both (owns wallet.id owner)) point := by
  have resolved : ∀ {middle : Point Database}, Knows commerce observing known middle →
      (scalar .accounts (fun row => row.ownerKey = owner) >>= fun created =>
        (found created .unexpected : Op Account)).wp (billing commerce)
          (Gaining commerce observing fun wallet => known.both (owns wallet.id owner)) middle := by
    intro middle kept
    rw [wp_scalar_bind]
    intro later rely
    rw [wp_found]
    exact ⟨fun wallet seen => due_owning (kept.rely rely) (owned_of_first seen),
      fun _ => (kept.rely rely).plain⟩
  unfold account
  rw [wp_scalar_bind]
  intro first rely
  rw [wp_branch]
  constructor
  · intro _
    rw [wp_uid_bind]
    intro fresh
    rw [wp_execute_bind]
    intro later moved
    have there := (due.rely rely).rely moved
    have harmless : Harmless observing (.insert .accounts ⟨fresh.1, owner, 0⟩) :=
      ⟨id, fun _ => id⟩
    exact ⟨fun accepted => resolved (there.write harmless accepted), fun _ => resolved there⟩
  · intro wallet seen
    rw [wp_pure]
    exact due_owning (due.rely rely) (owned_of_first seen)

/-- Posting a transfer that is warranted. -/
theorem wp_post (source target : Account) (amountIrr : Int) (key kind reference : String)
    (actorId : Option Id) (due : Knows commerce observing known point)
    (warranted : ∀ id held log db, known held log db → Warranted commerce log db source.id target.id
      amountIrr ⟨id, key, kind, reference, actorId⟩) :
    (post source target amountIrr key kind reference actorId).wp (billing commerce)
      (Gaining commerce observing fun _ => known.both (booked key)) point := by
  unfold post
  refine wp_upholds_bind (Harmless observing) _ due fun _ first debited => ?_
  refine wp_upholds_bind (Harmless observing) _ debited fun _ second credited => ?_
  rw [wp_uid_bind]
  intro id
  dsimp only
  rw [wp_insert_bind, wp_insert_bind, wp_insert_bind]
  have written : Knows commerce observing (known.both (booked key))
      { second with
        pending := second.pending ++
          (posted source.id target.id amountIrr ⟨id.1, key, kind, reference, actorId⟩) } := by
    refine credited.extend _ fun later rely lawful => ⟨?_, ?_, ?_⟩
    · refine lawful_post lawful.1 (.transfer _ _ _ _ (warranted _ _ _ _ lawful.2)) ?_
      simp [posted, Delicate, Structural]
    · exact Law.Steady.grow (List.Subset.refl _) (List.sublist_append_left _ _) lawful.2
    · exact ⟨_, .inr (List.mem_append_right _ List.mem_cons_self), rfl⟩
  simp only [List.append_assoc, List.cons_append, List.nil_append]
  refine wp_upholds_bind (Harmless observing) _ written fun _ last flushed => ?_
  exact flushed

/-- A transfer whose postings are warranted books its key, whether it finds the transaction or
writes it. -/
theorem wp_transfer (source target : String) (amountIrr : Int) (key kind reference : String)
    (enforce : Bool) (actorId : Option Id) (due : Knows commerce observing known point)
    (warranted : ∀ sourceId targetId id held log db, known held log db →
      (sourceId, source) ∈ Db.owners db ++ opened log →
        (targetId, target) ∈ Db.owners db ++ opened log →
          Warranted commerce log db sourceId targetId amountIrr
            ⟨id, key, kind, reference, actorId⟩) :
    (transfer source target amountIrr key kind reference enforce actorId).wp
      (billing commerce) (Gaining commerce observing fun _ => known.both (booked key))
      point := by
  have seen : ∀ {middle : Point Database} {transaction : Transaction},
      Knows commerce observing known middle →
        Db.first middle.view .transactions (fun row => row.idempotencyKey = key) =
          some transaction →
            Knows commerce observing (known.both (booked key)) middle := by
    intro middle transaction kept found
    have own : transaction.idempotencyKey = key := by simpa using List.find?_some found
    exact own ▸ due_booked kept (List.mem_of_find?_eq_some found)
  unfold transfer
  refine wp_upholds_bind (Harmless observing) _ due fun _ first positive => ?_
  rw [wp_scalar_bind]
  intro second rely
  rw [wp_branch]
  refine ⟨fun _ => ?_, fun transaction found => seen (positive.rely rely) found⟩
  unfold transferFresh
  refine wp_gains_bind (wp_account source (positive.rely rely)) fun payer third paid => ?_
  refine wp_gains_bind (wp_account target paid) fun payee fourth received => ?_
  refine wp_upholds_bind (Harmless observing) _ received fun _ fifth flushed => ?_
  refine wp_upholds_bind (Harmless observing) _ flushed fun _ sixth locked => ?_
  rw [wp_scalar_bind]
  intro seventh moved
  have here := locked.rely moved
  have less : ∀ {more : Law Database} {middle : Point Database}, Knows commerce observing
      (((known.both (owns payer.id source)).both (owns payee.id target)).both more) middle →
        Knows commerce observing (known.both more) middle := fun kept =>
    kept.weaken fun _ _ _ _ holds => ⟨holds.1, holds.2.1.1.1, holds.2.2⟩
  rw [wp_branch]
  constructor
  · intro _
    refine wp_upholds_bind (Harmless observing) _ here fun row eighth read => ?_
    refine wp_upholds_bind (Harmless observing) _ read fun wallet ninth there => ?_
    refine wp_upholds_bind (Harmless observing) _ there fun _ tenth checked => ?_
    refine wp_mono _ (wp_post payer payee amountIrr key kind reference actorId checked ?_) ?_
    · rintro id held log db ⟨⟨knows, payerOwned⟩, payeeOwned⟩
      exact warranted _ _ id held log db knows payerOwned payeeOwned
    · intro result last gains
      cases result with
      | ok transaction => exact less gains
      | error exception => exact gains
  · intro transaction found
    refine seen ?_ found
    exact here.weaken fun _ _ _ _ holds => ⟨holds.1, holds.2.1.1⟩

/-- Transfers for something else than a reading. -/
theorem pays {key kind : String} (other : kind ≠ "usage")
    (free : UsageKey key → commerce.Deposit key) :
    Pays (billing commerce) (Harmless observing) (billingLaw commerce observing)
      key kind where
  pays source target amountIrr reference enforce actorId :=
    ⟨fun point due => by
      refine wp_mono _ (wp_transfer source target amountIrr key kind reference enforce actorId
        due.anyhow fun _ _ _ _ _ _ _ _ _ => ?_) fun result later gains => gains.plain
      exact ⟨fun usage => .inr (free usage), fun usage => absurd usage other⟩⟩

/-- Other keys are no keys of charges. -/
theorem not_usageKey {first : Char} (text : String) (begins : text.toList.head? = some first)
    (other : first ≠ 'u') (id : Id) : ¬UsageKey (text ++ id) := by
  rintro ⟨bindingId, old, new, childId, same⟩
  have heads := congrArg (fun key : String => key.toList.head?) same
  simp only [usageKey, String.toList_append, List.append_assoc, List.head?_append, begins,
    Option.some_or] at heads
  exact other (Option.some.inj heads)

instance (id : Id) : Pays (billing commerce) (Harmless observing)
    (billingLaw commerce observing) ("funding-request:" ++ id) "fund" :=
  pays (by decide) fun usage => absurd usage (not_usageKey "funding-request:" rfl (by decide) id)

instance (id : Id) : Pays (billing commerce) (Harmless observing)
    (billingLaw commerce observing) ("approval:" ++ id) "adjustment" :=
  pays (by decide) fun usage => absurd usage (not_usageKey "approval:" rfl (by decide) id)

instance (id : Id) : Pays (billing commerce) (Harmless observing)
    (billingLaw commerce observing) ("panel-order:" ++ id) "order-funded" :=
  pays (by decide) fun usage => absurd usage (not_usageKey "panel-order:" rfl (by decide) id)

/-! ## Paths -/

section

omit [known.Steady]

/-- What a session that observes readings sees of the hierarchy is in the store. -/
theorem remembered (due : Rightful commerce True point) (table : Table)
    (structural : ∀ row : table.Row, Structural (.insert table row)) {row : table.Row}
    (seen : row ∈ Db.rows point.view table) : Remembered row point.store := by
  refine @Layout.every_replay layout table Query Query.Answer
    (fun row : table.Row => Remembered row point.store) point.log (fun row inserted => ?_)
    (fun _ columns _ row _ there => ?_) point.store (fun row there => ⟨row, there, rfl⟩) row seen
  · exact absurd (structural row)
      (due.now.2 trivial _ (List.mem_append_left _ inserted))
  · obtain ⟨kept, present, same⟩ := there
    exact ⟨kept, present, same.trans (Table.frozen_change columns row).symm⟩

/-- What is in the store stays there. -/
theorem remembered_later {table : Table} {row : table.Row} {db later : Db}
    (there : Remembered row db) (retained : db.Retained later)
    (notCategory : table ≠ .planCategories) (notPlan : table ≠ .plans) :
    Remembered row later := by
  obtain ⟨kept, present, same⟩ := there
  obtain ⟨last, found, its⟩ := retained table notCategory notPlan kept present
  exact ⟨last, found, its.trans same⟩

/-- What is in the store is there from then on. -/
theorem due_remembered (due : Knows commerce observing known point) {table : Table}
    {row : table.Row} (there : Remembered row point.store)
    (notCategory : table ≠ .planCategories) (notPlan : table ≠ .plans) :
    Knows commerce observing (known.both (Law.fact (Remembered row))) point :=
  due.learn _ fun _ rely => remembered_later there rely.le notCategory notPlan

/-- A session sees what the rows of the store refer to. -/
theorem sees_parent (due : Rightful commerce observing point) (table : Table) {row : table.Row}
    (member : row ∈ Db.rows point.store table) (parent : Table) (key : parent.Key)
    (refers : ⟨parent, key⟩ ∈ Table.foreignKeys row)
    (notCategory : parent ≠ .planCategories) (notPlan : parent ≠ .plans)
    (frozen : ∀ row : parent.Row, Table.primaryKey (Table.frozen row) = Table.primaryKey row) :
    ∃ seen, Db.find point.view parent key = some seen ∧ Table.primaryKey seen = some key ∧
      seen ∈ Db.rows point.view parent := by
  obtain ⟨other, present, own⟩ := Layout.has_eq_true.mp
    (due.inv.integrity.parents table row member _ refers)
  obtain ⟨seen, there, same⟩ := (proper due).retained parent notCategory notPlan other present
  have its : Table.primaryKey seen = some key := by
    rw [← frozen seen, same, frozen other]
    exact own
  exact ⟨seen, Integrity.find_eq_some (integrity_view due) there its, its, there⟩

/-- A contract that a session sees is in the store. -/
theorem due_contract (due : Knows commerce True known point) {contract : Contract}
    (seen : contract ∈ Db.contracts point.view) :
    Knows commerce True (known.both (Law.fact fun db => contract ∈ db.contracts)) point :=
  due.learn _ fun later rely =>
    (remembered_later (remembered due.plain .contracts (fun _ => trivial) seen) rely.le
      (by decide) (by decide)).fixed fun _ => rfl

end

/-- A path ends at an organization without a parent. -/
theorem leads_root {organization : Organization} {db : Db}
    (there : @Remembered .organizations organization db) (top : organization.parentId = none) :
    Leads db organization.id [] := by
  obtain ⟨kept, present, same⟩ := there.organization
  have own : kept.id = organization.id := by rw [same]
  rw [← own]
  exact .root present (by rw [same]; exact top)

/-- A path goes on at the parent of an organization. -/
theorem leads_up {organization : Organization} {parentId : Id} {contract : Contract} {db : Db}
    {path : List Edge} (there : @Remembered .organizations organization db)
    (parent : organization.parentId = some parentId) (agreed : contract ∈ db.contracts)
    (child : contract.childId = organization.id) (active : contract.status = .active)
    (above : Leads db parentId path) :
    Leads db organization.id (⟨organization.id, parentId, contract.pricePerGibIrr⟩ :: path) := by
  obtain ⟨kept, present, same⟩ := there.organization
  have own : kept.id = organization.id := by rw [same]
  rw [← own] at child ⊢
  exact .up present (by rw [same]; exact parent) agreed child active above

/-- The walk up the hierarchy returns the path to the root. -/
theorem wp_climb (fuel : Nat) (organization : Organization) (seen : List Id)
    (due : Knows commerce True known point)
    (there : @Remembered .organizations organization point.store) :
    (climb fuel (some organization) seen).wp (billing commerce)
      (Gaining commerce True fun path =>
        known.both (Law.fact fun db => Leads db organization.id path)) point := by
  induction fuel generalizing organization seen known point with
  | zero => exact due.plain
  | succ fuel inductionHypothesis =>
      rw [climb, wp_branch]
      refine ⟨by rintro ⟨⟩, fun current same => ?_⟩
      obtain rfl := Option.some.inj same
      rw [wp_branch]
      constructor
      · intro top
        rw [wp_pure]
        exact due.learn _ fun later rely =>
          leads_root (remembered_later there rely.le (by decide) (by decide)) top
      · intro parentId parent
        refine wp_upholds_bind (Harmless True) _
          (due_remembered due there (by decide) (by decide)) fun _ first acyclic => ?_
        rw [wp_scalar_bind]
        intro second rely
        rw [wp_found_bind]
        refine ⟨fun contract found => ?_, fun _ => (acyclic.rely rely).plain⟩
        have agreed := due_contract (acyclic.rely rely) (List.mem_of_find?_eq_some found)
        obtain ⟨child, active⟩ :
            contract.childId = organization.id ∧ contract.status = .active := by
          simpa using List.find?_some found
        rw [wp_get_bind]
        intro third moved
        have here := agreed.rely moved
        obtain ⟨kept, present, same⟩ := here.now.2.1.2.organization
        have refers : kept.parentId = some parentId := by
          rw [same]
          exact parent
        obtain ⟨above, sees, own, listed⟩ := sees_parent here.plain .organizations present
          .organizations parentId (by simp [Table.foreignKeys, refers]) (by decide) (by decide)
          fun _ => rfl
        rw [show Db.find (replay (S := Database) first.log third) .organizations parentId =
          some above from sees]
        refine wp_gains_bind (inductionHypothesis above _ here
          (remembered here.plain .organizations (fun _ => trivial) listed)) fun rest last led => ?_
        rw [wp_pure]
        refine led.weaken fun _ _ _ _ holds => ⟨holds.1, holds.2.1.1.1, ?_⟩
        obtain rfl : above.id = parentId := Option.some.inj own
        exact leads_up holds.2.1.1.2 parent holds.2.1.2 child active holds.2.2

/-- The edges above an organization are the path to the root. -/
theorem wp_edges {organization : Organization} (due : Knows commerce True known point)
    (there : @Remembered .organizations organization point.store) :
    (edges organization.id).wp (billing commerce)
      (Gaining commerce True fun path =>
        known.both (Law.fact fun db => Leads db organization.id path)) point := by
  unfold edges
  refine wp_upholds_bind (Harmless True) _
    (due_remembered due there (by decide) (by decide)) fun size first sized => ?_
  rw [wp_get_bind]
  intro second rely
  have here := sized.rely rely
  obtain ⟨kept, present, same⟩ := here.now.2.2.organization
  have stays : second.Retained (replay (S := Database) first.log second) :=
    (proper here.plain).retained
  obtain ⟨seen, member, its⟩ := stays .organizations (by decide) (by decide) kept present
  have own : seen.id = organization.id :=
    (congrArg Organization.id its).trans (by rw [same]; rfl)
  have found : Db.find (replay (S := Database) first.log second) .organizations organization.id =
      some seen :=
    Integrity.find_eq_some (integrity_view here.plain) member (congrArg some own)
  rw [found]
  refine wp_mono _ (wp_climb (size + 2) seen [] here
    (remembered here.plain .organizations (fun _ => trivial) member)) fun result last led => ?_
  cases result with
  | ok path => exact led.weaken fun _ _ _ _ holds => ⟨holds.1, holds.2.1.1, own ▸ holds.2.2⟩
  | error exception => exact led

/-! ## Cascades -/

/-- The charge of a settlement. -/
def charge (bindingId : Id) (old new : Nat) (settled : Settlement) : Charge :=
  ⟨bindingId, old, new, settled.edge, settled.amountIrr⟩

/-- Several keys are booked. -/
def allBooked (keys : List String) : Law Database := fun _ log db => ∀ key ∈ keys, Booked log db key

instance (keys : List String) : (allBooked keys).Steady where
  grow _ longer holds key member := (holds key member).grow longer.subset

/-- A charge that is paid is warranted. -/
theorem warranted_charge {charge : Charge} {log : List Database.Write} {db : Db}
    (priced : charge.Priced commerce.Tariff db) {source target : Id}
    (payer : (source, charge.edge.childId) ∈ Db.owners db ++ opened log)
    (payee : (target, charge.edge.parentId) ∈ Db.owners db ++ opened log)
    {transaction : Transaction} (keyed : charge.payment.key = transaction.idempotencyKey)
    (usage : transaction.kind = "usage") :
    Warranted commerce log db source target charge.amountIrr transaction :=
  ⟨fun _ => .inl usage, fun _ => ⟨charge, priced, rfl, keyed, payer, payee⟩⟩

/-- A cascade of priced settlements leaves every one of them booked, and a cascade that stops
leaves nothing that is not priced. -/
theorem wp_payCascade (binding : Binding) (old new : Nat) (rows : List Settlement) (pending : Int)
    (due : Knows commerce True known point)
    (priced : ∀ settled ∈ rows, ∀ held log db, known held log db →
      (charge binding.id old new settled).Priced commerce.Tariff db) :
    (payCascade binding old new rows pending).wp (billing commerce)
      (Gaining commerce True fun _ => known.both
        (allBooked (rows.map fun settled => usageKey binding.id old new settled.childId)))
      point := by
  induction rows generalizing known point pending with
  | nil => exact due.weaken fun _ _ _ _ holds => ⟨holds.1, holds.2, nofun⟩
  | cons settled rows inductionHypothesis =>
      rw [payCascade]
      refine wp_gains_bind (wp_gains_translated (wp_transfer settled.childId settled.parentId
        settled.amountIrr (usageKey binding.id old new settled.childId) "usage" binding.id true none
        due ?_) (holdFor binding pending)) fun _ first paid => ?_
      · intro sourceId targetId id held log db knows payer payee
        exact warranted_charge (priced settled List.mem_cons_self held log db knows) payer payee rfl
          rfl
      · refine wp_mono _ (inductionHypothesis (pending + settled.amountIrr) paid
          fun other member held log db knows =>
            priced other (List.mem_cons_of_mem _ member) held log db knows.1)
          fun result last gains => ?_
        cases result with
        | ok value =>
            refine gains.weaken fun _ _ _ _ holds => ⟨holds.1, holds.2.1.1, ?_⟩
            rw [List.map_cons]
            exact List.forall_mem_cons.mpr ⟨holds.2.1.2, holds.2.2⟩
        | error exception => exact gains

/-! ## Observations -/

/-- A session that observes readings sees the servers at their tariffs. -/
theorem atTariff_view (due : Rightful commerce True point) :
    point.view.AtTariff commerce.Tariff := by
  intro panel member
  refine @Layout.every_replay layout Table.panels Query Query.Answer
    (fun row : Panel => commerce.Tariff row.id row.usageCoefficient) point.log
    (fun row inserted => ?_) (fun key columns assigned row _ fair => ?_) point.store
    due.inv.tariffs panel member
  · exact absurd trivial (due.now.2 trivial _ (List.mem_append_left _ inserted))
  · have same : columns.usageCoefficient = none :=
      not_not.mp (due.now.2 trivial _ (List.mem_append_left _ assigned))
    change commerce.Tariff row.id (columns.usageCoefficient.getD row.usageCoefficient)
    rw [same]
    exact fair

/-- A session sees the server of a binding, at its tariff. -/
theorem sees_panel (due : Rightful commerce True point)
    {binding : Binding} (there : @Remembered .bindings binding point.store) :
    ∃ panel, Db.find point.view .panels binding.panelId = some panel ∧
      commerce.Tariff binding.panelId panel.usageCoefficient := by
  obtain ⟨kept, present, same⟩ := there
  obtain ⟨_, _, panelId, _⟩ := Binding.mk.inj same
  obtain ⟨panel, sees, own, listed⟩ := sees_parent due .bindings present .panels kept.panelId
    (by simp [Table.foreignKeys]) (by decide) (by decide) fun _ => rfl
  have its : panel.id = binding.panelId := (Option.some.inj own).trans panelId
  refine ⟨panel, panelId ▸ sees, its ▸ ?_⟩
  exact atTariff_view due panel listed

/-- A session sees the organization of a binding. -/
theorem sees_holder (due : Rightful commerce True point)
    {binding : Binding} (there : @Remembered .bindings binding point.store) :
    ∃ organization, organization.id = binding.organizationId ∧
      @Remembered .organizations organization point.store := by
  obtain ⟨kept, present, same⟩ := there
  obtain ⟨_, organizationId, _⟩ := Binding.mk.inj same
  obtain ⟨organization, _, own, listed⟩ := sees_parent due .bindings present .organizations
    kept.organizationId (by simp [Table.foreignKeys]) (by decide) (by decide) fun _ => rfl
  exact ⟨organization, (Option.some.inj own).trans organizationId,
    remembered due .organizations (fun _ => trivial) listed⟩

/-- A reading that is not to be paid for. -/
theorem harmless_reading {usage : Usage} (free : ¬usage.Payable) :
    Harmless observing (.insert .usages usage) :=
  ⟨free, fun _ => id⟩

instance (data : UsageIn) : Bills commerce observing (observeBaseline data) := by
  have read : Bills commerce observing (insert .usages
        ⟨data.bindingId, data.lifetimeBytes, 0, .baseline, data.observedAt⟩) :=
    Sustains.add (harmless_reading (by rintro ⟨⟨⟩, _⟩))
  unfold observeBaseline
  infer_instance

set_option synthInstance.maxSize 1000000 in
instance (env : Env) (binding : Binding) (checkpoint : Checkpoint) (data : UsageIn) :
    Bills commerce observing (observeRegression env binding checkpoint data) := by
  have read : ∀ status : UsageStatus, Bills commerce observing (insert .usages
        ⟨binding.id, data.lifetimeBytes, 0, status, data.observedAt⟩) := fun status =>
    Sustains.add (harmless_reading fun payable => absurd payable.2 (Nat.lt_irrefl 0))
  unfold observeRegression
  infer_instance

/-- A reading above the checkpoint is charged before it is accepted. -/
theorem wp_observeAdvance (binding : Binding) (checkpoint : Checkpoint) (data : UsageIn)
    (advance : checkpoint.lifetimeBytes ≤ data.lifetimeBytes)
    (due : Knows commerce True (Law.fact (@Remembered .bindings binding)) point) :
    (observeAdvance binding checkpoint data).wp (billing commerce)
      (Gaining commerce True fun _ => Law.anything) point := by
  unfold observeAdvance
  rw [wp_get_bind]
  intro first rely
  have bound := due.rely rely
  obtain ⟨panel, sees, fair⟩ := sees_panel bound.plain bound.now.2
  rw [show Db.find (replay (S := Database) point.log first) .panels binding.panelId = some panel
    from sees]
  obtain ⟨organization, own, there⟩ := sees_holder bound.plain bound.now.2
  rw [← own]
  refine wp_gains_bind (wp_edges bound there) fun path second led => ?_
  rw [wp_attempt_bind]
  refine ⟨fun rows computed => ?_, fun _ _ => led.plain⟩
  refine wp_gains_bind (wp_payCascade binding checkpoint.lifetimeBytes data.lifetimeBytes rows 0 led
    fun settled member held log db knows => ?_) fun _ third paid => ?_
  · obtain ⟨above, price⟩ := price_of_cascade computed member
    obtain ⟨kept, present, same⟩ := knows.1
    obtain ⟨id, organizationId, panelId, _⟩ := Binding.mk.inj same
    refine ⟨kept, present, id, ⟨path, ?_, above⟩, panel.usageCoefficient, ?_, price⟩
    · rw [organizationId, ← own]
      exact knows.2
    · rw [panelId]
      exact fair
  rw [wp_assign_bind, wp_insert_bind, wp_pure]
  have assigned : Harmless True (.update .checkpoints binding.id
      { lifetimeBytes := some data.lifetimeBytes, observedAt := some data.observedAt
        anomalyCount := some 0 }) := ⟨id, fun _ => id⟩
  have moved := paid.record assigned
  by_cases positive : 0 < data.lifetimeBytes - checkpoint.lifetimeBytes
  · refine moved.extend _ fun later rely lawful => ⟨?_, trivial⟩
    refine lawful_post lawful.1 (.reading _ ?_) ?_
    · obtain ⟨kept, present, same⟩ := lawful.2.1.1
      obtain ⟨id, organizationId, _⟩ := Binding.mk.inj same
      refine ⟨Nat.sub_le _ _, kept, present, id, path, ?_, fun edge above => ?_⟩
      · rw [organizationId, ← own]
        exact lawful.2.1.2
      · obtain ⟨settled, member, rfl⟩ := List.mem_map.mp
          ((edges_of_cascade computed (by exact_mod_cast positive)).symm ▸ above)
        dsimp only
        rw [Nat.sub_sub_self advance]
        exact lawful.2.2 _ (List.mem_map.mpr ⟨settled, member, rfl⟩)
    · intro statement member
      rw [List.mem_singleton.mp member]
      exact ⟨⟨rfl, positive⟩, id⟩
  · have free : Harmless True (.insert .usages ⟨binding.id, data.lifetimeBytes,
        data.lifetimeBytes - checkpoint.lifetimeBytes, .accepted, data.observedAt⟩) :=
      harmless_reading fun payable => positive payable.2
    exact (moved.record free).weaken fun _ _ _ _ holds => ⟨holds.1, trivial⟩

/-- A reading that a session accepts is charged. -/
theorem wp_observe (env : Env) (data : UsageIn)
    (due : Rightful commerce True point) :
    (observe env data).wp (billing commerce)
      (Gaining commerce True fun _ => Law.anything) point := by
  unfold observe
  rw [wp_get_bind]
  intro first rely
  rw [wp_found_bind]
  refine ⟨fun binding found => ?_, fun _ => due.rely rely⟩
  have seen := remembered (due.rely rely) .bindings (fun _ => trivial)
    (List.mem_of_find?_eq_some found)
  have bound := due_remembered (due.rely rely).anyhow seen (by decide) (by decide)
  refine wp_upholds_bind (Harmless True) _ bound fun stored second locked => ?_
  rw [wp_branch]
  refine ⟨fun _ => ?_, fun checkpoint _ => ?_⟩
  · exact wp_mono _ (wp_sustains (Harmless True) (observeBaseline data) locked.plain)
      fun result later kept => kept.gains result
  · split
    · exact wp_mono _ (wp_sustains (Harmless True)
        (observeRegression env binding checkpoint data) locked.plain)
        fun result later kept => kept.gains result
    · next advance =>
        exact wp_observeAdvance binding checkpoint data (Nat.le_of_not_lt advance)
          (locked.weaken fun _ _ _ _ holds => ⟨holds.1, holds.2.2⟩)

instance :
    Meters (billing commerce) (Harmless True) (billingLaw commerce True) where
  meters env data :=
    ⟨fun _ due => wp_mono _ (wp_observe env data due) fun _ _ gains => gains.plain⟩

/-! ## Every session -/

omit [known.Steady] in
theorem meets_of_sustains (observing : Prop) (program : Op α)
    [Bills commerce observing program] :
    (billing commerce).Meets (served program) :=
  Sustains.meets _ (Harmless observing) (billingLaw commerce observing) _

instance (changes : List (Id × OutboxColumns)) : Bills commerce observing (moveEvents changes) := by
  unfold moveEvents
  infer_instance

end Billing

open Billing in
/-- Every session of the system writes lawfully about charges. -/
theorem SystemOperation.meets_billing {env : Env} {packages : Packages} {traffic : Traffic}
    {Tariff : Id → Nat → Prop} {program : Prog Database (Except Failure Unit)}
    (operation : SystemOperation env packages traffic program) :
    (billing ⟨traffic.Deposit, Tariff⟩).Meets program := by
  cases operation with
  | usage data => exact meets_of_sustains True _
  | usageBatch observations => exact meets_of_sustains True _
  | poll => exact meets_of_sustains True _
  | fund organizationId data deposit =>
      have funds : Pays (billing ⟨traffic.Deposit, Tariff⟩) (Harmless False)
          (billingLaw ⟨traffic.Deposit, Tariff⟩ False) data.idempotencyKey "fund" :=
        pays (by decide) fun _ => deposit
      exact meets_of_sustains False _
  | confirmOrder identity orderId =>
      exact meets_of_sustains False (customerRoute env identity orderId _)
  | declarePayment identity orderId =>
      exact meets_of_sustains False (customerRoute env identity orderId _)
  | cancelOrder identity orderId =>
      exact meets_of_sustains False (customerRoute env identity orderId _)
  | webCategoryStatus identity categoryId status =>
      exact meets_of_sustains False (catalogStatusRoute env identity .category categoryId status)
  | webPlanStatus identity planId status =>
      exact meets_of_sustains False (catalogStatusRoute env identity .plan planId status)
  | handle handler event handles =>
      have kept : Bills ⟨traffic.Deposit, Tariff⟩ False (handler event) :=
        sustains_handler handles event
      exact meets_of_sustains False (handler event)
  | _ => exact meets_of_sustains False _

/-! ## Runs -/

section

variable {ι : Type} [DecidableEq ι] {env : Env} {packages : Packages} {traffic : Traffic}
  {before : Id → Nat → Prop} {store : Db} {world : World Database ι (Except Failure Unit)}

/-- A billing coefficient of a server: one from before the run, or one that the server has in a
store of the run. -/
def HadCoefficient (before : Id → Nat → Prop) (store : Db)
    (world : World Database ι (Except Failure Unit)) (panelId : Id) (coefficient : Nat) : Prop :=
  before panelId coefficient ∨ ∃ earlier, World.Past store world earlier ∧
    ∃ panel ∈ Db.panels earlier, panel.id = panelId ∧ panel.usageCoefficient = coefficient

/-- A database without transactions and readings, where bindings have generated ids and servers
their tariffs. -/
theorem BillingHolds.blank {commerce : Commerce} (integrity : layout.Integrity store)
    (generated : ∀ binding ∈ store.bindings, binding.id.length = 36)
    (tariffs : store.AtTariff commerce.Tariff)
    (transactions : store.transactions = []) (usages : store.usages = []) :
    BillingHolds commerce store where
  integrity := integrity
  generated := generated
  tariffs := tariffs
  charges _ member := absurd (transactions ▸ member) List.not_mem_nil
  keyed _ member := absurd (transactions ▸ member) List.not_mem_nil
  charged _ member := absurd (usages ▸ member) List.not_mem_nil

theorem BillingHolds.reachable (opening : BillingHolds ⟨traffic.Deposit, before⟩ store)
    (reached : World.Reachable (SystemOperation env packages traffic) store world) :
    BillingHolds ⟨traffic.Deposit, HadCoefficient before store world⟩ world.store := by
  have wider : BillingHolds ⟨traffic.Deposit, HadCoefficient before store world⟩ store :=
    opening.mono fun _ _ => .inl
  refine (Agreement.Sound.reachable_within (fun _ operation => operation.meets_billing) wider
    reached fun committed member => ?_).inv
  exact not_not.mpr fun panel present =>
    .inr ⟨committed.after, .inr ⟨committed, member, rfl⟩, panel, present, rfl, rfl⟩

/-- Where no deposit comes under the key of a charge, every accepted reading is paid for on every
edge between the organization of its binding and the root, at the rate of the contract and at a
billing coefficient that the server of the binding has had. -/
theorem readings_billed (opening : BillingHolds ⟨traffic.Deposit, before⟩ store)
    (reserved : ∀ key, UsageKey key → ¬traffic.Deposit key)
    (reached : World.Reachable (SystemOperation env packages traffic) store world) {usage : Usage}
    (member : usage ∈ Db.usages world.store) (accepted : usage.status = .accepted)
    (counted : 0 < usage.deltaBytes) :
    usage.Billed (HadCoefficient before store world) world.store :=
  (opening.reachable reached).billed reserved member ⟨accepted, counted⟩

/-- Whatever is paid for a reading, accepted or not, is the price of its bytes on an edge above the
organization of a binding, paid by the lower organization of the edge to the upper one. -/
theorem charges_priced (opening : BillingHolds ⟨traffic.Deposit, before⟩ store)
    (reached : World.Reachable (SystemOperation env packages traffic) store world)
    {transaction : Transaction} (member : transaction ∈ Db.transactions world.store)
    (kind : transaction.kind = "usage") :
    ∃ charge : Charge, charge.Priced (HadCoefficient before store world) world.store ∧
      charge.payment.key = transaction.idempotencyKey ∧
        Db.Settled world.store charge.payment :=
  (opening.reachable reached).charges transaction member kind

end

/-! ### A metered binding -/

namespace Sample

/-- Everybody calls, and deposits come under other keys. -/
def meteredTraffic : Traffic := ⟨fun _ => True, fun key => ¬UsageKey key⟩

/-- So far the server of the sample has counted bytes once. -/
def onceCounted (panelId : Id) (coefficient : Nat) : Prop :=
  panelId = "panel" ∧ coefficient = 10000

/-- The sample workspace before anything is bound. -/
def unbound : Db :=
  replay (S := Database) (rows.eraseIdx 8) {}

theorem unbound_billing : BillingHolds ⟨meteredTraffic.Deposit, onceCounted⟩ unbound :=
  .blank (Layout.Integrity.replay Integrity.empty (by decide)) (by decide)
    (fun panel member => by
      cases member with
      | head => exact ⟨rfl, rfl⟩
      | tail _ other => cases other) rfl rfl

/-- The binding of the sample, and what it reads. -/
def reading (lifetimeBytes : Nat) : UsageIn :=
  ⟨String.ofList (List.replicate 36 'a'), lifetimeBytes, 0⟩

/-- A binding is made, and read twice. -/
theorem metered_reachable : ∃ last : World Database Unit (Except Failure Unit),
    World.Reachable (SystemOperation env packages meteredTraffic) unbound last ∧
      (Db.usages last.store).map (fun row => (row.status, row.deltaBytes)) =
          [(.baseline, 0), (.accepted, 1073741824)] ∧
        (Db.transactions last.store).map Transaction.kind = ["usage"] := by
  have quiet : (World.initial unbound : World Database Unit (Except Failure Unit)).Quiet :=
    fun _ => rfl
  obtain ⟨first, reached, quiet, bound⟩ := quiet_served quiet .refl () answers
    (SystemOperation.createBinding ⟨"shop", "panel", 7, "shop"⟩ :
      SystemOperation env packages meteredTraffic _)
  obtain ⟨second, reached, quiet, begun⟩ := quiet_served quiet reached () (answersFrom 5)
    (SystemOperation.usage (reading 5) :
      SystemOperation env packages meteredTraffic _)
  obtain ⟨last, reached, _, advanced⟩ := quiet_served quiet reached () (answersFrom 10)
    (SystemOperation.usage (reading 1073741829) :
      SystemOperation env packages meteredTraffic _)
  refine ⟨last, reached, ?_⟩
  rw [advanced, begun, bound]
  decide +kernel

end Sample

/-- A gigabyte of the sample is paid for. -/
theorem readings_billed_gigabyte : ∃ world : World Database Unit (Except Failure Unit),
    World.Reachable (SystemOperation Sample.env Sample.packages Sample.meteredTraffic)
        Sample.unbound world ∧
      ∃ usage ∈ Db.usages world.store, usage.deltaBytes = 1073741824 ∧
        usage.Billed (HadCoefficient Sample.onceCounted Sample.unbound world) world.store := by
  obtain ⟨world, reached, readings, _⟩ := Sample.metered_reachable
  obtain ⟨usage, member, same⟩ := List.mem_map.mp
    (readings ▸ List.mem_cons_of_mem _ (List.mem_singleton_self _))
  obtain ⟨accepted, counted⟩ := Prod.mk.inj same
  refine ⟨world, reached, usage, member, counted, ?_⟩
  exact readings_billed Sample.unbound_billing (fun _ key free => free key) reached member accepted
    (by rw [counted]; decide)

/-- What was paid for the gigabyte is its price. -/
theorem charges_priced_gigabyte : ∃ world : World Database Unit (Except Failure Unit),
    World.Reachable (SystemOperation Sample.env Sample.packages Sample.meteredTraffic)
        Sample.unbound world ∧
      ∃ transaction ∈ Db.transactions world.store, ∃ charge : Charge,
        charge.Priced (HadCoefficient Sample.onceCounted Sample.unbound world) world.store ∧
          charge.payment.key = transaction.idempotencyKey ∧
            Db.Settled world.store charge.payment := by
  obtain ⟨world, reached, _, kinds⟩ := Sample.metered_reachable
  obtain ⟨transaction, member, kind⟩ := List.mem_map.mp
    (kinds ▸ List.mem_singleton_self _)
  exact ⟨world, reached, transaction, member,
    charges_priced Sample.unbound_billing reached member kind⟩

end ControlPlane
