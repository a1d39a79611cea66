import EmbeddedPortfolio.Transition.System

namespace EmbeddedPortfolio.Transition

universe u

variable {Item : Type u} {size : Nat} {queue rest : List Item}
variable {chunks : List (List Item)}

/-! A queue served from the front, a chunk of some size at a time. -/

def chunking (size : Nat) (queue : List Item) :
    System (List Item) (List Item) where
  initial start := start = queue
  step before chunk after :=
    before ≠ [] ∧ chunk = before.take size ∧ after = before.drop size

/-- The chunks served so far, and what is still to be served. -/
structure Chunked (size : Nat) (queue : List Item) (chunks : List (List Item))
    (rest : List Item) : Prop where
  flatten : chunks.flatten ++ rest = queue
  room : ∀ chunk ∈ chunks, 0 < chunk.length ∧ chunk.length ≤ size
  full : ∀ chunk ∈ chunks.dropLast, chunk.length = size
  pending : rest ≠ [] → ∀ chunk ∈ chunks, chunk.length = size

theorem Chunked.serve (positive : 0 < size)
    (chunked : Chunked size queue chunks rest) (nonempty : rest ≠ []) :
    Chunked size queue (chunks ++ [rest.take size]) (rest.drop size) where
  flatten := by
    rw [List.flatten_append, List.flatten_singleton, List.append_assoc,
      List.take_append_drop, chunked.flatten]
  room := by
    intro chunk hchunk
    rcases List.mem_append.mp hchunk with hearlier | hlast
    · exact chunked.room chunk hearlier
    · have hrest := List.length_pos_iff.mpr nonempty
      rw [List.mem_singleton.mp hlast, List.length_take]
      omega
  full := by
    rw [List.dropLast_concat]
    exact chunked.pending nonempty
  pending := by
    intro hleft chunk hchunk
    rcases List.mem_append.mp hchunk with hearlier | hlast
    · exact chunked.pending nonempty chunk hearlier
    · have hlonger := List.length_pos_iff.mpr hleft
      rw [List.length_drop] at hlonger
      rw [List.mem_singleton.mp hlast, List.length_take]
      omega

theorem chunking_run (positive : 0 < size)
    (run : (chunking size queue).Run chunks rest) :
    Chunked size queue chunks rest := by
  induction run with
  | start initial =>
      cases initial
      exact ⟨List.nil_append _, by simp, by simp, by simp⟩
  | extend _ taken induction =>
      obtain ⟨nonempty, rfl, rfl⟩ := taken
      exact induction.serve positive nonempty

theorem length_flatten_of_full
    (full : ∀ chunk ∈ chunks, chunk.length = size) :
    chunks.flatten.length = chunks.length * size := by
  induction chunks with
  | nil => simp
  | cons chunk chunks induction =>
      obtain ⟨hchunk, hchunks⟩ := List.forall_mem_cons.mp full
      rw [List.flatten_cons, List.length_append, List.length_cons, hchunk,
        induction hchunks, Nat.succ_mul, Nat.add_comm]

/-- Only the last chunk can fall short. -/
theorem Chunked.full_iff_dvd (chunked : Chunked size queue chunks []) :
    (∀ chunk ∈ chunks, chunk.length = size) ↔ size ∣ queue.length := by
  rw [← chunked.flatten, List.append_nil]
  constructor
  · intro full
    rw [length_flatten_of_full full]
    exact Nat.dvd_mul_left ..
  · intro hdvd
    induction chunks using List.reverseRecOn with
    | nil => simp
    | append_singleton chunks last _ =>
        have hfull := chunked.full
        rw [List.dropLast_concat] at hfull
        obtain ⟨hnonempty, hroom⟩ := chunked.room last (by simp)
        rw [List.flatten_append, List.flatten_singleton, List.length_append,
          length_flatten_of_full hfull,
          Nat.dvd_add_right (Nat.dvd_mul_left ..)] at hdvd
        have hlast := Nat.le_of_dvd hnonempty hdvd
        intro chunk hchunk
        rcases List.mem_append.mp hchunk with hearlier | hsame
        · exact hfull chunk hearlier
        · rw [List.mem_singleton.mp hsame]
          omega

end EmbeddedPortfolio.Transition
