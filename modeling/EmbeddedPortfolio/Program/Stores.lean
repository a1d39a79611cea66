import Mathlib.Data.List.Induction
import Mathlib.Logic.Function.Basic
import Mathlib.Tactic.Linarith

namespace EmbeddedPortfolio.Program

/-! What a program stores to an indexed memory, in order, and the memory that
this leaves. -/

structure Store (Cell : Type) where
  index : Int
  value : Cell
deriving DecidableEq, Repr

section Stores

variable {Cell : Type}

def applyStores (stores : List (Store Cell)) (memory : Int → Cell) :
    Int → Cell :=
  stores.foldl
    (fun memory store => Function.update memory store.index store.value) memory

@[simp] theorem applyStores_nil (memory : Int → Cell) :
    applyStores [] memory = memory := rfl

@[simp] theorem applyStores_append (first second : List (Store Cell))
    (memory : Int → Cell) :
    applyStores (first ++ second) memory =
      applyStores second (applyStores first memory) :=
  List.foldl_append

theorem applyStores_concat (stores : List (Store Cell)) (store : Store Cell)
    (memory : Int → Cell) (index : Int) :
    applyStores (stores ++ [store]) memory index =
      if index = store.index then store.value
      else applyStores stores memory index := by
  rw [applyStores_append]
  exact Function.update_apply ..

theorem applyStores_untouched {stores : List (Store Cell)} {index : Int}
    (untouched : ∀ store ∈ stores, store.index ≠ index)
    (memory : Int → Cell) : applyStores stores memory index = memory index := by
  induction stores using List.reverseRecOn with
  | nil => rfl
  | append_singleton stores store induction =>
      have hlast : index ≠ store.index :=
        (untouched store (by simp)).symm
      rw [applyStores_concat, if_neg hlast]
      exact induction fun earlier hearlier =>
        untouched earlier (List.mem_append_left _ hearlier)

/-- A cell all of whose stores agree. -/
theorem applyStores_agreed {stores : List (Store Cell)} {index : Int}
    {value : Cell} (touched : ∃ store ∈ stores, store.index = index)
    (agreed : ∀ store ∈ stores, store.index = index → store.value = value)
    (memory : Int → Cell) : applyStores stores memory index = value := by
  induction stores using List.reverseRecOn with
  | nil =>
      obtain ⟨store, hstore, _⟩ := touched
      cases hstore
  | append_singleton stores store induction =>
      rw [applyStores_concat]
      split
      · rename_i hlast
        exact agreed store (by simp) hlast.symm
      · rename_i hlast
        apply induction
        · obtain ⟨other, hother, hindex⟩ := touched
          rcases List.mem_append.mp hother with hearlier | hsame
          · exact ⟨other, hearlier, hindex⟩
          · rw [List.mem_singleton.mp hsame] at hindex
            exact absurd hindex.symm hlast
        · intro other hother
          exact agreed other (List.mem_append_left _ hother)

/-- What all stored values share, a stored cell has. -/
theorem applyStores_stored (property : Cell → Prop)
    {stores : List (Store Cell)} {index : Int}
    (touched : ∃ store ∈ stores, store.index = index)
    (all : ∀ store ∈ stores, property store.value) (memory : Int → Cell) :
    property (applyStores stores memory index) := by
  induction stores using List.reverseRecOn with
  | nil =>
      obtain ⟨store, hstore, _⟩ := touched
      cases hstore
  | append_singleton stores last induction =>
      rw [applyStores_concat]
      split
      · exact all last (by simp)
      · rename_i hlast
        apply induction
        · obtain ⟨store, hstore, hindex⟩ := touched
          rcases List.mem_append.mp hstore with hearlier | hsame
          · exact ⟨store, hearlier, hindex⟩
          · rw [List.mem_singleton.mp hsame] at hindex
            exact absurd hindex.symm hlast
        · intro store hstore
          exact all store (List.mem_append_left _ hstore)

/-- The memory matters only where nothing is stored. -/
theorem applyStores_congr (stores : List (Store Cell))
    {memory other : Int → Cell} {index : Int}
    (hsame : memory index = other index) :
    applyStores stores memory index = applyStores stores other index := by
  induction stores using List.reverseRecOn with
  | nil => exact hsame
  | append_singleton stores store induction =>
      rw [applyStores_concat, applyStores_concat, induction]

def Store.shift (offset : Int) (store : Store Cell) : Store Cell :=
  { store with index := offset + store.index }

/-- Stores relative to a base address. -/
theorem applyStores_shift (stores : List (Store Cell)) (offset : Int)
    (memory : Int → Cell) (index : Int) :
    applyStores (stores.map (Store.shift offset)) memory (offset + index) =
      applyStores stores (fun cell => memory (offset + cell)) index := by
  induction stores using List.reverseRecOn with
  | nil => rfl
  | append_singleton stores store induction =>
      rw [List.map_append, List.map_singleton, applyStores_concat,
        applyStores_concat, induction]
      simp only [Store.shift, add_right_inj]

end Stores

/-! Items that are stored one after the other, each in a slot of its own. -/

section Slots

variable {Cell Item : Type}

/-- The cell is one of the slot's. -/
def InSlot (size slot cell : Int) : Prop :=
  slot * size ≤ cell ∧ cell < (slot + 1) * size

def slotStores (write : Int → Item → List (Store Cell)) :
    Int → List Item → List (Store Cell)
  | _, [] => []
  | slot, item :: items => write slot item ++ slotStores write (slot + 1) items

/-- Every item's stores stay in the slot they are made for. -/
def KeepSlots (size : Int) (write : Int → Item → List (Store Cell))
    (items : List Item) : Prop :=
  ∀ slot, ∀ item ∈ items, ∀ store ∈ write slot item,
    InSlot size slot store.index

variable {write : Int → Item → List (Store Cell)} {size : Int}
variable {items : List Item}

theorem KeepSlots.tail {item : Item}
    (keeps : KeepSlots size write (item :: items)) :
    KeepSlots size write items := by
  intro slot other hother
  exact keeps slot other (List.mem_cons_of_mem _ hother)

theorem KeepSlots.head {item : Item}
    (keeps : KeepSlots size write (item :: items)) (slot : Int) :
    ∀ store ∈ write slot item, InSlot size slot store.index :=
  keeps slot item List.mem_cons_self

theorem slotStores_before (hsize : 0 ≤ size)
    (keeps : KeepSlots size write items)
    {start cell : Int} (hcell : cell < start * size) (memory : Int → Cell) :
    applyStores (slotStores write start items) memory cell = memory cell := by
  induction items generalizing start memory with
  | nil => rfl
  | cons item items induction =>
      have hhead : ∀ store ∈ write start item, store.index ≠ cell := by
        intro store hstore hindex
        have hslot := (keeps.head start store hstore).1
        omega
      have hnext : cell < (start + 1) * size := by
        rw [add_mul, one_mul]
        omega
      rw [slotStores, applyStores_append,
        induction keeps.tail hnext]
      exact applyStores_untouched hhead memory

/-- In an item's slot, only that item's stores count. -/
theorem slotStores_at (hsize : 0 ≤ size)
    (keeps : KeepSlots size write items)
    {start cell : Int} {position : Nat} {item : Item}
    (hitem : items[position]? = some item)
    (hcell : InSlot size (start + position) cell) (memory : Int → Cell) :
    applyStores (slotStores write start items) memory cell =
      applyStores (write (start + position) item) memory cell := by
  induction items generalizing start position memory with
  | nil => simp at hitem
  | cons first items induction =>
      rw [slotStores, applyStores_append]
      cases position with
      | zero =>
          cases hitem
          rw [Nat.cast_zero, Int.add_zero] at hcell ⊢
          exact slotStores_before hsize keeps.tail hcell.2 _
      | succ position =>
          have hsucc : start + ((position + 1 : Nat) : Int) =
              start + 1 + position := by
            omega
          rw [hsucc] at hcell ⊢
          rw [induction keeps.tail hitem hcell]
          apply applyStores_congr
          apply applyStores_untouched
          intro store hstore hindex
          have hslot := (keeps.head start store hstore).2
          have hstart : (start + 1) * size ≤ (start + 1 + position) * size :=
            mul_le_mul_of_nonneg_right (by omega) hsize
          have hfirst := hcell.1
          omega

theorem slotStores_after (hsize : 0 ≤ size)
    (keeps : KeepSlots size write items)
    {start cell : Int} (hcell : (start + items.length) * size ≤ cell)
    (memory : Int → Cell) :
    applyStores (slotStores write start items) memory cell = memory cell := by
  induction items generalizing start memory with
  | nil => rfl
  | cons item items induction =>
      have hlength : start + ((item :: items).length : Int) =
          start + 1 + items.length := by
        rw [List.length_cons]
        omega
      rw [hlength] at hcell
      rw [slotStores, applyStores_append,
        induction keeps.tail hcell]
      apply applyStores_untouched
      intro store hstore hindex
      have hslot := (keeps.head start store hstore).2
      have hend : (start + 1) * size ≤ (start + 1 + items.length) * size :=
        mul_le_mul_of_nonneg_right (by omega) hsize
      omega

end Slots

/-! Planes of rows of cells. -/

section Planes

def planarIndex (width height plane row col : Int) : Int :=
  plane * (width * height) + row * width + col

theorem rowIndex_lt {width height row col : Int} (hrow : row < height)
    (hcol : col < width) (hwidth : 0 ≤ width) :
    row * width + col < width * height := by
  nlinarith [mul_le_mul_of_nonneg_right (Int.add_one_le_iff.mpr hrow) hwidth]

theorem planarIndex_mem {width height planes plane row col : Int}
    (hplane : 0 ≤ plane ∧ plane < planes) (hrow : 0 ≤ row ∧ row < height)
    (hcol : 0 ≤ col ∧ col < width) :
    0 ≤ planarIndex width height plane row col ∧
      planarIndex width height plane row col < planes * (width * height) := by
  have hwidth : 0 ≤ width := by omega
  have hheight : 0 ≤ height := by omega
  have harea := mul_nonneg hwidth hheight
  have hcell := rowIndex_lt hrow.2 hcol.2 hwidth
  have hplanes : (plane + 1) * (width * height) ≤
      planes * (width * height) :=
    mul_le_mul_of_nonneg_right (by omega) harea
  have hstart := mul_nonneg hplane.1 harea
  have hline := mul_nonneg hrow.1 hwidth
  unfold planarIndex
  constructor <;> nlinarith

/-- A quotient and a remainder determine each other. -/
theorem mul_add_inj {base first second left right : Int}
    (hleft : 0 ≤ left ∧ left < base) (hright : 0 ≤ right ∧ right < base)
    (hequal : first * base + left = second * base + right) :
    first = second ∧ left = right := by
  have hquotient : first = second := by
    have hfirst : (first * base + left) / base = first := by
      rw [Int.add_comm, Int.add_mul_ediv_right _ _ (by omega),
        Int.ediv_eq_zero_of_lt hleft.1 hleft.2, Int.zero_add]
    have hsecond : (second * base + right) / base = second := by
      rw [Int.add_comm, Int.add_mul_ediv_right _ _ (by omega),
        Int.ediv_eq_zero_of_lt hright.1 hright.2, Int.zero_add]
    rw [← hfirst, ← hsecond, hequal]
  subst hquotient
  exact ⟨rfl, by omega⟩

theorem planarIndex_inj {width height : Int}
    {plane row col plane' row' col' : Int}
    (hrow : 0 ≤ row ∧ row < height) (hcol : 0 ≤ col ∧ col < width)
    (hrow' : 0 ≤ row' ∧ row' < height) (hcol' : 0 ≤ col' ∧ col' < width)
    (hequal : planarIndex width height plane row col =
      planarIndex width height plane' row' col') :
    plane = plane' ∧ row = row' ∧ col = col' := by
  have hwidth : 0 ≤ width := by omega
  unfold planarIndex at hequal
  rw [Int.add_assoc, Int.add_assoc] at hequal
  have hcell : 0 ≤ row * width + col ∧ row * width + col < width * height :=
    ⟨by nlinarith [mul_nonneg hrow.1 hwidth], rowIndex_lt hrow.2 hcol.2 hwidth⟩
  have hcell' : 0 ≤ row' * width + col' ∧
      row' * width + col' < width * height :=
    ⟨by nlinarith [mul_nonneg hrow'.1 hwidth],
      rowIndex_lt hrow'.2 hcol'.2 hwidth⟩
  obtain ⟨hplane, hinner⟩ := mul_add_inj hcell hcell' hequal
  obtain ⟨hrows, hcols⟩ := mul_add_inj hcol hcol' hinner
  exact ⟨hplane, hrows, hcols⟩

end Planes

end EmbeddedPortfolio.Program
