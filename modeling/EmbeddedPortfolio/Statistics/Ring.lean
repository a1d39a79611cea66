import Mathlib.Data.List.DropRight
import Mathlib.Data.List.Rotate

namespace EmbeddedPortfolio.Statistics

universe u v

/-! The last samples of a history, kept in a vector that grows up to the window
and is then overwritten in place. -/

section Code

variable {Sample : Type}

/-- An assignment to `samples[index]`, undefined outside the vector. -/
def assign? (samples : List Sample) (index : Nat) (sample : Sample) :
    Option (List Sample) :=
  if index < samples.length then some (samples.set index sample) else none

/-- The remainder, undefined for a zero divisor. -/
def modulo? (dividend divisor : Nat) : Option Nat :=
  if divisor = 0 then none else some (dividend % divisor)

def record? (window : Nat) (samples : List Sample) (cursor : Nat)
    (sample : Sample) : Option (List Sample × Nat) := do
  let samples ←
    if samples.length < window then some (samples ++ [sample])
    else assign? samples cursor sample
  let cursor ← modulo? (cursor + 1) window
  some (samples, cursor)

end Code

section Layout

variable {Sample : Type}

theorem set_rotate {samples : List Sample} {index : Nat}
    (inside : index < samples.length) (sample : Sample) :
    (samples.set index sample).rotate (index + 1) =
      (samples.rotate index).drop 1 ++ [sample] := by
  have hset := List.set_eq_take_append_cons_drop (l := samples) (i := index)
    (a := sample)
  rw [if_pos inside] at hset
  rw [hset, List.rotate_eq_drop_append_take (by simp; omega),
    List.rotate_eq_drop_append_take inside.le]
  have hlength : (samples.take index).length = index := by
    rw [List.length_take]
    omega
  rw [List.append_cons, List.drop_left' (by simp [hlength]),
    List.take_left' (by simp [hlength]),
    List.drop_append_of_le_length (by simp; omega), List.drop_drop,
    List.append_assoc]

/-- The vector of `samples` holds the last `window` entries of `history`, the
oldest at `cursor` once the vector has grown. -/
structure Layout (window : Nat) (history samples : List Sample)
    (cursor : Nat) : Prop where
  cursor_eq : cursor = history.length % window
  rotated : samples.rotate cursor = history.rtake window

namespace Layout

variable {window : Nat} {history samples : List Sample} {cursor : Nat}

theorem empty (window : Nat) : Layout window ([] : List Sample) [] 0 where
  cursor_eq := (Nat.zero_mod window).symm
  rotated := by simp

theorem perm (layout : Layout window history samples cursor) :
    samples.Perm (history.rtake window) := by
  rw [← layout.rotated]
  exact (List.rotate_perm samples cursor).symm

theorem length (layout : Layout window history samples cursor) :
    samples.length = min history.length window := by
  rw [layout.perm.length_eq, List.rtake, List.length_drop]
  omega

theorem growing (layout : Layout window history samples cursor)
    (room : samples.length < window) :
    samples = history ∧ cursor = history.length := by
  have hlength := layout.length
  have hcursor : cursor = history.length := by
    rw [layout.cursor_eq, Nat.mod_eq_of_lt (by omega)]
  have hrotated := layout.rotated
  rw [hcursor, show history.length = samples.length by omega,
    List.rotate_length, List.rtake, Nat.sub_eq_zero_of_le (by omega),
    List.drop_zero] at hrotated
  exact ⟨hrotated, hcursor⟩

theorem grow (layout : Layout window history samples cursor)
    (room : samples.length < window) (sample : Sample) :
    Layout window (history ++ [sample]) (samples ++ [sample])
      ((cursor + 1) % window) := by
  obtain ⟨rfl, rfl⟩ := layout.growing room
  refine ⟨by simp, ?_⟩
  have hall : (samples ++ [sample]).rtake window = samples ++ [sample] := by
    rw [List.rtake, Nat.sub_eq_zero_of_le (by simp; omega), List.drop_zero]
  rw [hall]
  -- The cursor stands behind the last entry, or wraps to the first.
  rcases Nat.lt_or_eq_of_le (Nat.succ_le_of_lt room) with hlt | hfull
  · rw [Nat.mod_eq_of_lt hlt]
    simpa using List.rotate_length (samples ++ [sample])
  · rw [← hfull, Nat.mod_self, List.rotate_zero]

theorem overwrite (layout : Layout window history samples cursor)
    (positive : 0 < window) (full : ¬ samples.length < window)
    (sample : Sample) :
    cursor < samples.length ∧
      Layout window (history ++ [sample]) (samples.set cursor sample)
        ((cursor + 1) % window) := by
  have hlength := layout.length
  have hwindow : samples.length = window := by omega
  have hinside : cursor < samples.length := by
    rw [layout.cursor_eq, hwindow]
    exact Nat.mod_lt _ positive
  refine ⟨hinside, by simp [layout.cursor_eq], ?_⟩
  have hmod : (samples.set cursor sample).rotate ((cursor + 1) % window) =
      (samples.set cursor sample).rotate (cursor + 1) := by
    rw [← List.rotate_mod _ (cursor + 1), List.length_set, hwindow]
  rw [hmod, set_rotate hinside, layout.rotated, List.rtake, List.rtake,
    List.drop_drop, List.length_append, List.length_singleton,
    List.drop_append_of_le_length (by omega),
    show history.length - window + 1 = history.length + 1 - window by omega]

theorem record? (layout : Layout window history samples cursor)
    (positive : 0 < window) (sample : Sample) :
    ∃ samples' cursor',
      Statistics.record? window samples cursor sample =
        some (samples', cursor') ∧
      Layout window (history ++ [sample]) samples' cursor' := by
  have hdivisor : modulo? (cursor + 1) window = some ((cursor + 1) % window) :=
    if_neg positive.ne'
  cases Nat.decLt samples.length window with
  | isTrue room =>
      refine ⟨samples ++ [sample], (cursor + 1) % window, ?_,
        layout.grow room sample⟩
      simp [Statistics.record?, room, hdivisor]
  | isFalse full =>
      obtain ⟨hinside, hnext⟩ := layout.overwrite positive full sample
      refine ⟨samples.set cursor sample, (cursor + 1) % window, ?_, hnext⟩
      simp [Statistics.record?, full, assign?, hinside, hdivisor]

end Layout

end Layout

/-! A loop of fallible steps, with an invariant that speaks about the items
consumed so far. -/

theorem foldlM_history {State : Type u} {Item : Type v}
    {step : State → Item → Option State} {Holds : List Item → State → Prop}
    (preserved : ∀ history state item, Holds history state →
      ∃ next, step state item = some next ∧ Holds (history ++ [item]) next)
    {initial : State} (start : Holds [] initial) (items : List Item) :
    ∃ final, items.foldlM step initial = some final ∧ Holds items final := by
  induction items using List.reverseRecOn with
  | nil => exact ⟨initial, rfl, start⟩
  | append_singleton items item induction =>
      obtain ⟨state, hstate, holds⟩ := induction
      obtain ⟨next, hnext, hholds⟩ := preserved items state item holds
      refine ⟨next, ?_, hholds⟩
      simp [List.foldlM_append, hstate, hnext]

theorem foldlM_invariant {State : Type u} {Item : Type v}
    {step : State → Item → Option State} {Holds : State → Prop}
    (preserved : ∀ state item, Holds state →
      ∃ next, step state item = some next ∧ Holds next)
    {initial : State} (start : Holds initial) (items : List Item) :
    ∃ final, items.foldlM step initial = some final ∧ Holds final :=
  foldlM_history (fun _ state item => preserved state item) start items

end EmbeddedPortfolio.Statistics
