import Lodging.Stores

/-! # Writes to the ledger as far as they are made

Several writes are made one after another up to the first row in which what is available
cannot be computed; that row is still written. So the writes that are made are the first of
those that are asked for (`Lodging.Stores.madeOf_prefix`), and they leave what they leave
when nobody computes anything (`Lodging.Stores.writeInventories_snd`). All of them are made
exactly if every row that they leave can be recounted
(`Lodging.Stores.writeInventories_fst`).
-/

namespace Lodging.Stores

variable (stores : Stores) (roomType : Id) (rooms : Int) (now : Instant)

/-! ## One write -/

/-- The row that a write leaves, whether what is available in it can be computed or not. -/
def writtenRow (patch : InventoryPatch) : InventoryRow :=
  let fresh := InventoryRow.blank stores.supply.next roomType patch.date rooms now
  patch.apply ((stores.inventory? roomType patch.date).getD fresh) now

/-- A write gives its row back if what is available in it can be computed. -/
theorem writeInventory_fst (patch : InventoryPatch) :
    (stores.writeInventory roomType patch rooms now).1 =
      (stores.writtenRow roomType rooms now patch).available?.map fun _ =>
        stores.writtenRow roomType rooms now patch :=
  rfl

/-! ## Several writes -/

/-- Merges writes into rows of a room type one after another, whatever is available in
them. -/
def mergeInventories (patches : List InventoryPatch) : Stores :=
  patches.foldl (fun stores patch => (stores.writeInventory roomType patch rooms now).2) stores

/-- The rows that writes leave, each right after its own write. -/
def writtenRows (stores : Stores) (roomType : Id) (rooms : Int) (now : Instant) :
    List InventoryPatch → List InventoryRow
  | [] => []
  | patch :: rest =>
      stores.writtenRow roomType rooms now patch ::
        (stores.writeInventory roomType patch rooms now).2.writtenRows roomType rooms now rest

/-- Of several writes those that are made: the first ones, up to one after which what is
available cannot be computed. -/
def madeOf (stores : Stores) (roomType : Id) (rooms : Int) (now : Instant) :
    List InventoryPatch → List InventoryPatch
  | [] => []
  | patch :: rest =>
      match stores.writeInventory roomType patch rooms now with
      | (some _, after) => patch :: after.madeOf roomType rooms now rest
      | (none, _) => [patch]

variable {stores roomType rooms now} {patches : List InventoryPatch}

/-- The writes that are made are the first of those that are asked for. -/
theorem madeOf_prefix : stores.madeOf roomType rooms now patches <+: patches := by
  induction patches generalizing stores with
  | nil => exact List.prefix_refl []
  | cons patch rest ih =>
      rw [madeOf]
      rcases stores.writeInventory roomType patch rooms now with ⟨_ | row, after⟩
      · exact ⟨rest, rfl⟩
      · exact (List.prefix_cons_inj patch).mpr ih

/-- Several writes leave what those of them leave that are made. -/
theorem writeInventories_snd :
    (stores.writeInventories roomType patches rooms now).2 =
      stores.mergeInventories roomType rooms now (stores.madeOf roomType rooms now patches) := by
  induction patches generalizing stores with
  | nil => rfl
  | cons patch rest ih =>
      rw [writeInventories, madeOf]
      rcases written : stores.writeInventory roomType patch rooms now with ⟨_ | row, after⟩
      · rw [mergeInventories, List.foldl_cons, written]
        rfl
      · rw [mergeInventories, List.foldl_cons, written]
        exact ih

/-- Several writes are all made exactly if what is available can be computed in each row that
they leave. -/
theorem writeInventories_fst :
    (stores.writeInventories roomType patches rooms now).1 = some () ↔
      ∀ row ∈ stores.writtenRows roomType rooms now (stores.madeOf roomType rooms now patches),
        row.available?.isSome := by
  induction patches generalizing stores with
  | nil => exact ⟨fun _ _ member => (nomatch member), fun _ => rfl⟩
  | cons patch rest ih =>
      have given := stores.writeInventory_fst roomType rooms now patch
      rw [writeInventories, madeOf]
      rcases written : stores.writeInventory roomType patch rooms now with ⟨_ | row, after⟩
      · rw [written] at given
        have missing := Option.map_eq_none_iff.mp given.symm
        refine ⟨fun made => (nomatch made), fun each => ?_⟩
        have own := each _ List.mem_cons_self
        rw [missing] at own
        exact nomatch own
      · rw [written] at given
        obtain ⟨available, computed, _⟩ := Option.map_eq_some_iff.mp given.symm
        rw [writtenRows, List.forall_mem_cons, written]
        exact ih.trans (and_iff_right (Option.isSome_of_eq_some computed)).symm

/-- Where what is available can be computed in every row, all writes are made. -/
theorem madeOf_eq_self (made : (stores.writeInventories roomType patches rooms now).1 = some ()) :
    stores.madeOf roomType rooms now patches = patches := by
  induction patches generalizing stores with
  | nil => rfl
  | cons patch rest ih =>
      rw [writeInventories] at made
      rw [madeOf]
      rcases written : stores.writeInventory roomType patch rooms now with ⟨_ | row, after⟩
      · rw [written] at made
        exact nomatch made
      · rw [written] at made
        exact congrArg (patch :: ·) (ih made)

/-- A single write leaves the same as several of which it is the only one. -/
theorem writeInventories_singleton (patch : InventoryPatch) :
    (stores.writeInventories roomType [patch] rooms now).2 =
      (stores.writeInventory roomType patch rooms now).2 := by
  rw [writeInventories]
  rcases stores.writeInventory roomType patch rooms now with ⟨_ | row, after⟩ <;> rfl

/-- A single write is always made. -/
theorem madeOf_singleton (patch : InventoryPatch) :
    stores.madeOf roomType rooms now [patch] = [patch] := by
  rw [madeOf]
  rcases stores.writeInventory roomType patch rooms now with ⟨_ | row, after⟩ <;> rfl

/-- What each write keeps is kept by several of them. -/
theorem writeInventories_induction (property : Stores → Prop)
    (step : ∀ patch ∈ patches, ∀ stores, property stores →
      property (stores.writeInventory roomType patch rooms now).2)
    (start : property stores) :
    property (stores.writeInventories roomType patches rooms now).2 := by
  induction patches generalizing stores with
  | nil => exact start
  | cons patch rest ih =>
      obtain ⟨own, others⟩ := List.forall_mem_cons.mp step
      have first := own stores start
      rw [writeInventories]
      rcases written : stores.writeInventory roomType patch rooms now with ⟨_ | row, after⟩
      · rw [written] at first
        exact first
      · rw [written] at first
        exact ih others first

end Lodging.Stores
