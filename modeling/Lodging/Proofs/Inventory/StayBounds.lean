import Lodging.Proofs.Inventory.Calls
import Lodging.Proofs.RatePlan.WellFormed

/-! # Stay bounds of the ledger

A write to the ledger is checked together with the row that is stored, so no single
write leaves a row with more nights required than allowed. The writes of one request are
each checked against the rows as they were before the first of them, not against one
another. The bounds of all rows agree afterwards exactly when for each date the last
bounds that the request carries agree (`Lodging.InventoryPatch.BoundsAgree`), and in
histories in which they do in every request that is not refused they always do
(`Lodging.History.stay_bounds_agree`). A request that sets one bound of a date first and the
other one later can reverse them (`Lodging.History.stay_bounds_reversed`).
-/

namespace Lodging

/-- A row does not require more nights than it allows. -/
def InventoryRow.BoundsAgree (row : InventoryRow) : Prop :=
  ∀ least ∈ row.minStay, ∀ most ∈ row.maxStay, least ≤ most

instance (row : InventoryRow) : Decidable row.BoundsAgree :=
  inferInstanceAs (Decidable (∀ least ∈ row.minStay, ∀ most ∈ row.maxStay, least ≤ most))

/-! ## The last value for a date -/

namespace InventoryPatch

variable {field : InventoryPatch → Option Int} {date : Date} {patch : InventoryPatch}
  {patches : List InventoryPatch}

/-- The last value of a field that writes carry for a date. -/
def last? (field : InventoryPatch → Option Int) (date : Date) (patches : List InventoryPatch) :
    Option Int :=
  (patches.filter (·.date == date)).reverse.findSome? field

/-- For each date the last bounds that the writes carry agree. -/
def BoundsAgree (patches : List InventoryPatch) : Prop :=
  ∀ patch ∈ patches, ∀ least ∈ last? (·.minStay) patch.date patches,
    ∀ most ∈ last? (·.maxStay) patch.date patches, least ≤ most

instance (patches : List InventoryPatch) : Decidable (BoundsAgree patches) :=
  inferInstanceAs (Decidable (∀ patch ∈ patches, ∀ least ∈ _, ∀ most ∈ _, least ≤ most))

/-- A later value comes before that of the first write. -/
theorem last?_cons :
    last? field date (patch :: patches) =
      (last? field date patches).or (if patch.date = date then field patch else none) := by
  rw [last?, last?, List.filter_cons]
  by_cases same : patch.date = date
  · rw [if_pos (beq_iff_eq.mpr same), if_pos same, List.reverse_cons, List.findSome?_append,
      List.findSome?_singleton]
  · rw [if_neg (fun equal => same (beq_iff_eq.mp equal)), if_neg same, Option.or_none]

theorem mem_of_last? {value : Int} (found : value ∈ last? field date patches) :
    ∃ patch ∈ patches, patch.date = date ∧ field patch = some value := by
  obtain ⟨patch, member, carried⟩ := List.exists_of_findSome?_eq_some found
  obtain ⟨present, same⟩ := List.mem_filter.mp (List.mem_reverse.mp member)
  exact ⟨patch, present, beq_iff_eq.mp same, carried⟩

theorem eq_none_of_last? (none : last? field date patches = none) (member : patch ∈ patches)
    (same : patch.date = date) : field patch = .none := by
  refine List.findSome?_eq_none_iff.mp none patch (List.mem_reverse.mpr ?_)
  exact List.mem_filter.mpr ⟨member, beq_iff_eq.mpr same⟩

/-- The bounds of a single write have been compared. -/
theorem boundsAgree_singleton (bounded : patch.reversedBounds? = none) : BoundsAgree [patch] := by
  intro _ _ least fewest most highest
  obtain ⟨_, member, _, least?⟩ := mem_of_last? fewest
  obtain ⟨_, memberToo, _, most?⟩ := mem_of_last? highest
  obtain rfl := List.mem_singleton.mp member
  obtain rfl := List.mem_singleton.mp memberToo
  exact Int.not_lt.mp (ReversedBounds.check_eq_none.mp bounded least least? most most?)

end InventoryPatch

/-! ## What writes leave in a row -/

namespace Stores

variable {stores : Stores} {hotel roomType : Id} {date : Date} {patches : List InventoryPatch}
  {rooms : Int} {now : Instant}

/-- Writes leave the rows of other room types. -/
theorem inventory?_mergeInventories_of_ne {other : Id} (different : roomType ≠ other) :
    (stores.mergeInventories roomType rooms now patches).inventory? other date =
      stores.inventory? other date := by
  induction patches generalizing stores with
  | nil => rfl
  | cons patch rest ih =>
      refine ih.trans ((inventory?_writeInventory _ _ _ _ _ (other, date)).trans (if_neg ?_))
      exact fun same => different (Prod.mk.inj same).1

section Shown

variable {field : InventoryPatch → Option Int} {shown : InventoryRow → Option Int}

/-- A field of a row is what a write carries for it, and else what it was. -/
theorem shown_writeInventory
    (merged : ∀ (patch : InventoryPatch) row now,
      shown (patch.apply row now) = (field patch).or (shown row))
    (blank : ∀ id roomType date rooms now, shown (.blank id roomType date rooms now) = none)
    (patch : InventoryPatch) :
    ((stores.writeInventory roomType patch rooms now).2.inventory? roomType date).bind shown =
      (if patch.date = date then field patch else none).or
        ((stores.inventory? roomType date).bind shown) := by
  have written := inventory?_writeInventory stores roomType patch rooms now (roomType, date)
  by_cases same : patch.date = date
  · subst same
    rw [if_pos rfl] at written
    rw [written, if_pos rfl, Option.bind_some, writtenRow, merged]
    cases stores.inventory? roomType patch.date with
    | none => rw [Option.getD_none, blank, Option.bind_none]
    | some row => rfl
  · rw [if_neg fun equal => same (Prod.mk.inj equal).2] at written
    rw [written, if_neg same, Option.none_or]

/-- After several writes it is the last value that one of them carries for the date, and
else what it was. -/
theorem shown_mergeInventories
    (merged : ∀ (patch : InventoryPatch) row now,
      shown (patch.apply row now) = (field patch).or (shown row))
    (blank : ∀ id roomType date rooms now, shown (.blank id roomType date rooms now) = none) :
    ((stores.mergeInventories roomType rooms now patches).inventory? roomType date).bind shown =
      (InventoryPatch.last? field date patches).or
        ((stores.inventory? roomType date).bind shown) := by
  induction patches generalizing stores with
  | nil => rfl
  | cons patch rest ih =>
      rw [InventoryPatch.last?_cons, Option.or_assoc, ← shown_writeInventory merged blank]
      exact ih

end Shown

/-- The fewest nights of a row are the last that are set for its date. -/
theorem minStay_mergeInventories :
    ((stores.mergeInventories roomType rooms now patches).inventory? roomType date).bind
        (·.minStay) =
      (InventoryPatch.last? (·.minStay) date patches).or
        ((stores.inventory? roomType date).bind (·.minStay)) :=
  shown_mergeInventories (fun _ _ _ => rfl) fun _ _ _ _ _ => rfl

/-- The most nights of a row are the last that are set for its date. -/
theorem maxStay_mergeInventories :
    ((stores.mergeInventories roomType rooms now patches).inventory? roomType date).bind
        (·.maxStay) =
      (InventoryPatch.last? (·.maxStay) date patches).or
        ((stores.inventory? roomType date).bind (·.maxStay)) :=
  shown_mergeInventories (fun _ _ _ => rfl) fun _ _ _ _ _ => rfl

/-! ## The bounds of all rows -/

/-- The ledger has one row for a room type and a date, and the bounds of each agree. -/
structure LedgerAgrees (stores : Stores) : Prop where
  apart : (stores.inventory.map (·.key)).Nodup
  bounds : ∀ row ∈ stores.inventory, row.BoundsAgree

namespace LedgerAgrees

theorem of_nil (unwritten : stores.inventory = []) : stores.LedgerAgrees where
  apart := by
    rw [unwritten]
    exact List.nodup_nil
  bounds := by
    rw [unwritten]
    exact fun _ member => nomatch member

theorem of_inventory_eq {before after : Stores} (agrees : before.LedgerAgrees)
    (same : after.inventory = before.inventory) : after.LedgerAgrees where
  apart := by
    rw [same]
    exact agrees.apart
  bounds := by
    rw [same]
    exact agrees.bounds

/-- The bounds of a row that is found agree. -/
theorem le_of_inventory? (bounds : ∀ row ∈ stores.inventory, row.BoundsAgree) (roomType : Id)
    (date : Date) :
    ∀ least ∈ (stores.inventory? roomType date).bind (·.minStay),
      ∀ most ∈ (stores.inventory? roomType date).bind (·.maxStay), least ≤ most := by
  intro least fewest most highest
  obtain ⟨row, found, least?⟩ := Option.bind_eq_some_iff.mp fewest
  obtain ⟨twin, foundToo, most?⟩ := Option.bind_eq_some_iff.mp highest
  obtain rfl := Option.some.inj (found.symm.trans foundToo)
  exact bounds row (List.mem_of_find?_eq_some found) least least? most most?

/-- The last bounds for a date, and the stored ones where there are none, agree if the
last ones agree: each write has been compared with the stored row. -/
theorem merged (agrees : stores.LedgerAgrees)
    (admitted : stores.AdmitsInventory hotel roomType rooms patches)
    (agree : InventoryPatch.BoundsAgree patches) (date : Date) :
    ∀ least ∈ (InventoryPatch.last? (·.minStay) date patches).or
        ((stores.inventory? roomType date).bind (·.minStay)),
      ∀ most ∈ (InventoryPatch.last? (·.maxStay) date patches).or
          ((stores.inventory? roomType date).bind (·.maxStay)),
        least ≤ most := by
  have compared (patch : InventoryPatch) (member : patch ∈ patches) (same : patch.date = date) :
      ∀ least ∈ patch.minStay.or ((stores.inventory? roomType date).bind (·.minStay)),
        ∀ most ∈ patch.maxStay.or ((stores.inventory? roomType date).bind (·.maxStay)),
          least ≤ most := by
    have passed := ReversedBounds.check_eq_none.mp (admitted.merged patch member)
    rw [same] at passed
    exact fun least fewest most highest => Int.not_lt.mp (passed least fewest most highest)
  intro least fewest most highest
  cases lastMin : InventoryPatch.last? (·.minStay) date patches with
  | some low =>
      rw [lastMin] at fewest
      cases lastMax : InventoryPatch.last? (·.maxStay) date patches with
      | some high =>
          rw [lastMax] at highest
          obtain ⟨patch, member, rfl, _⟩ := InventoryPatch.mem_of_last? lastMin
          exact agree patch member least (lastMin.trans fewest) most (lastMax.trans highest)
      | none =>
          obtain ⟨patch, member, same, carried⟩ := InventoryPatch.mem_of_last? lastMin
          have uncarried := InventoryPatch.eq_none_of_last? lastMax member same
          rw [lastMax] at highest
          refine compared patch member same least ?_ most ?_
          · rw [carried]
            exact fewest
          · rw [uncarried]
            exact highest
  | none =>
      rw [lastMin] at fewest
      cases lastMax : InventoryPatch.last? (·.maxStay) date patches with
      | some high =>
          obtain ⟨patch, member, same, carried⟩ := InventoryPatch.mem_of_last? lastMax
          have uncarried := InventoryPatch.eq_none_of_last? lastMin member same
          rw [lastMax] at highest
          refine compared patch member same least ?_ most ?_
          · rw [uncarried]
            exact fewest
          · rw [carried]
            exact highest
      | none =>
          rw [lastMax] at highest
          exact le_of_inventory? agrees.bounds roomType date least fewest most highest

/-- After writes that have been admitted the bounds of all rows agree exactly when the last
bounds that the writes carry agree. -/
theorem mergeInventories_iff (agrees : stores.LedgerAgrees)
    (admitted : stores.AdmitsInventory hotel roomType rooms patches) :
    (∀ row ∈ (stores.mergeInventories roomType rooms now patches).inventory, row.BoundsAgree) ↔
      InventoryPatch.BoundsAgree patches := by
  constructor
  · intro bounds patch _ least fewest most highest
    refine le_of_inventory? bounds roomType patch.date least ?_ most ?_
    · rw [minStay_mergeInventories, fewest]
      rfl
    · rw [maxStay_mergeInventories, highest]
      rfl
  · intro agree row member
    have found := inventory?_eq_some (nodup_mergeInventories agrees.apart) member
    by_cases own : roomType = row.roomType
    · subst own
      have agreed := agrees.merged admitted agree row.date
      rw [← minStay_mergeInventories, ← maxStay_mergeInventories, found] at agreed
      exact agreed
    · rw [inventory?_mergeInventories_of_ne own] at found
      exact agrees.bounds row (List.mem_of_find?_eq_some found)

/-- Writes that have been admitted keep the ledger in agreement if the last bounds that they
carry agree. -/
theorem mergeInventories (agrees : stores.LedgerAgrees)
    (admitted : stores.AdmitsInventory hotel roomType rooms patches)
    (agree : InventoryPatch.BoundsAgree patches) :
    (stores.mergeInventories roomType rooms now patches).LedgerAgrees where
  apart := nodup_mergeInventories agrees.apart
  bounds := (agrees.mergeInventories_iff admitted).mpr agree

end LedgerAgrees

end Stores

/-! ## Histories -/

/-- Where a call writes several rows of the ledger, the last bounds for each date agree. Of a
call that is refused nothing is asked, and of one that breaks off only what it writes. -/
def Event.BoundsAgree (event : Event) (backend : Backend) : Prop :=
  ∀ hotel roomType patches made, event.call = .putInventories hotel roomType patches →
    event.inventoryMade? backend = some (roomType, made) → InventoryPatch.BoundsAgree made

/-- Of a request that is accepted the bounds are compared as it carries them. -/
theorem Event.boundsAgree_of_isAccepted {event : Event} {backend : Backend} {hotel roomType : Id}
    {patches : List InventoryPatch} (asked : event.call = .putInventories hotel roomType patches)
    (accepted : event.isAccepted backend = true) (agree : InventoryPatch.BoundsAgree patches) :
    event.BoundsAgree backend := by
  intro _ _ _ made askedToo writes
  have all : event.call.inventoryWrites? = some (roomType, patches) := by rw [asked]; rfl
  rw [inventoryMade?_of_isAccepted all accepted] at writes
  obtain ⟨_, rfl⟩ := Prod.mk.inj (Option.some.inj writes)
  exact agree

/-- A call keeps the ledger in agreement; a single write needs no more than its checks. -/
theorem Stores.LedgerAgrees.after {event : Event} {backend : Backend}
    (agrees : backend.stores.LedgerAgrees) (agree : event.BoundsAgree backend) :
    (event.after backend).stores.LedgerAgrees := by
  cases writes : event.inventoryMade? backend with
  | none => exact agrees.of_inventory_eq (Event.inventory_of_unmade writes)
  | some made =>
      obtain ⟨roomType, made⟩ := made
      rw [Event.stores_of_inventoryMade? writes]
      obtain ⟨patches, asked, proceeding, rfl⟩ := Event.of_inventoryMade? writes
      obtain ⟨admitted, _⟩ := Event.after_of_inventoryWrites asked proceeding
      refine agrees.mergeInventories (admitted.of_subset madeOf_prefix.subset) ?_
      obtain ⟨call, circumstance⟩ := event
      cases call with
      | putInventory hotel own patch =>
          obtain ⟨rfl, rfl⟩ := Prod.mk.inj (Option.some.inj asked)
          rw [madeOf_singleton]
          have bounded := admitted.bounded patch (List.mem_singleton_self patch)
          exact InventoryPatch.boundsAgree_singleton bounded
      | putInventories hotel own several =>
          obtain ⟨rfl, rfl⟩ := Prod.mk.inj (Option.some.inj asked)
          exact agree hotel own several _ rfl writes
      | _ => exact nomatch asked

namespace History

theorem ledgerAgrees (history : History) {start : Backend}
    (unwritten : start.stores.inventory = []) (agree : history.Each Event.BoundsAgree start) :
    (history.after start).stores.LedgerAgrees :=
  history.invariant_of_each Stores.LedgerAgrees
    (fun _ _ agree agrees => agrees.after agree) agree (.of_nil unwritten)

/-- **Stay bounds.** From an empty ledger, no row comes to require more nights than it
allows as long as the last bounds for each date agree in every request for several
writes that is not refused. A request for which they do not is what reverses the bounds of
a row. -/
theorem stay_bounds_agree (history : History) {start : Backend}
    (unwritten : start.stores.inventory = [])
    (agree : history.Each Event.BoundsAgree start) :
    (∀ row ∈ (history.after start).stores.inventory, row.BoundsAgree) ∧
    ∀ circumstance hotel roomType patches count after,
      (Inventory.putAll hotel roomType patches).run circumstance (history.after start) =
        (.ok count, after) →
      ((∀ row ∈ after.stores.inventory, row.BoundsAgree) ↔
        InventoryPatch.BoundsAgree patches) := by
  have agrees := history.ledgerAgrees unwritten agree
  refine ⟨agrees.bounds, fun circumstance hotel roomType patches count after success => ?_⟩
  let event : Event := ⟨.putInventories hotel roomType patches, circumstance⟩
  have accepted : event.isAccepted (history.after start) = true := Event.isAccepted_of_run success
  have written := Event.stores_of_inventoryMade? (Event.inventoryMade?_of_isAccepted rfl accepted)
  obtain ⟨admitted, _⟩ :=
    Event.after_of_inventoryWrites rfl (Event.not_refused_of_isAccepted accepted)
  have same : event.after (history.after start) = after := congrArg Prod.snd success
  rw [← same, written]
  exact agrees.mergeInventories_iff admitted

end History

/-! ## Two bounds for one night -/

namespace Sample

/-- The fewest nights are set for a day. -/
def raising (day : Int) (nights : Int) : InventoryPatch :=
  { InventoryPatch.forDate ⟨day⟩ with minStay := some nights }

/-- The most nights are set for a day. -/
def capping (day : Int) (nights : Int) : InventoryPatch :=
  { InventoryPatch.forDate ⟨day⟩ with maxStay := some nights }

/-- Rows of the house are written in one request. -/
def stocking (patches : List InventoryPatch) : Event where
  call := .putInventories ⟨1⟩ ⟨2⟩ patches
  circumstance := circumstance

end Sample

open Sample in
/-- A request that raises the fewest nights and caps the most nights of one night is
accepted, though no stay meets both. -/
theorem History.stay_bounds_reversed :
    backend.stores.inventory = [] ∧
    ∃ row ∈ (History.after [stocking [raising 10 5, capping 10 3]] backend).stores.inventory,
      row.minStay = some 5 ∧ row.maxStay = some 3 ∧ ¬ row.BoundsAgree := by
  decide +kernel

open Sample in
/-- Requests one after another keep the bounds of a night in order, until one sets them
both, each only within the other one that is stored. -/
theorem History.stay_bounds_agree_until_reversed :
    let history : History := [stocking [raising 10 2], stocking [capping 10 3, raising 11 5]]
    (∀ row ∈ (history.after backend).stores.inventory, row.BoundsAgree) ∧
    ∃ after, (Inventory.putAll ⟨1⟩ ⟨2⟩ [raising 10 3, capping 10 2]).run circumstance
        (history.after backend) = (.ok 2, after) ∧
      ¬ ∀ row ∈ after.stores.inventory, row.BoundsAgree := by
  intro history
  have agree : history.Each Event.BoundsAgree backend := by
    refine ⟨?_, ?_, trivial⟩
    · exact Event.boundsAgree_of_isAccepted rfl (by decide +kernel) (by decide)
    · exact Event.boundsAgree_of_isAccepted rfl (by decide +kernel) (by decide)
  have unwritten : backend.stores.inventory = [] := rfl
  obtain ⟨bounds, exactly⟩ := stay_bounds_agree history unwritten agree
  have accepted : ((Inventory.putAll ⟨1⟩ ⟨2⟩ [raising 10 3, capping 10 2]).run circumstance
      (history.after backend)).1.toOption = some 2 := by
    decide +kernel
  refine ⟨bounds, _, Service.run_ok_of_toOption accepted, fun agreed => ?_⟩
  have last := (exactly _ _ _ _ _ _ (Service.run_ok_of_toOption accepted)).mp agreed
  exact absurd last (by decide)

end Lodging
