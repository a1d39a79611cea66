namespace EmbeddedPortfolio.Program

/-! Programs that read an indexed memory.  A run gives the result together with
the indices that were read, in order. -/

def Reading (Cell Result : Type) : Type :=
  (Int → Cell) → Result × List Int

namespace Reading

variable {Cell First Second Item Result Accumulated : Type}

def value (program : Reading Cell Result) (memory : Int → Cell) : Result :=
  (program memory).1

def reads (program : Reading Cell Result) (memory : Int → Cell) : List Int :=
  (program memory).2

def read (index : Int) : Reading Cell Cell :=
  fun memory => (memory index, [index])

instance : Monad (Reading Cell) where
  pure result := fun _ => (result, [])
  bind program next := fun memory =>
    ((next (program.value memory)).value memory,
      program.reads memory ++ (next (program.value memory)).reads memory)

def collect (program : Item → Reading Cell (Option Result)) :
    List Item → Reading Cell (List Result)
  | [] => pure []
  | item :: rest => do
      let found ← program item
      let others ← collect program rest
      pure (found.toList ++ others)

def gather (program : Item → Reading Cell (List Result)) :
    List Item → Reading Cell (List Result)
  | [] => pure []
  | item :: rest => do
      let found ← program item
      let others ← gather program rest
      pure (found ++ others)

@[simp] theorem value_pure (result : Result) (memory : Int → Cell) :
    (pure result : Reading Cell Result).value memory = result := rfl

@[simp] theorem reads_pure (result : Result) (memory : Int → Cell) :
    (pure result : Reading Cell Result).reads memory = [] := rfl

@[simp] theorem value_read (index : Int) (memory : Int → Cell) :
    (read index).value memory = memory index := rfl

@[simp] theorem reads_read (index : Int) (memory : Int → Cell) :
    (read index).reads memory = [index] := rfl

@[simp] theorem value_bind (program : Reading Cell First)
    (next : First → Reading Cell Second) (memory : Int → Cell) :
    (program >>= next).value memory =
      (next (program.value memory)).value memory := rfl

@[simp] theorem reads_bind (program : Reading Cell First)
    (next : First → Reading Cell Second) (memory : Int → Cell) :
    (program >>= next).reads memory =
      program.reads memory ++ (next (program.value memory)).reads memory := rfl

@[simp] theorem value_ite (condition : Prop) [Decidable condition]
    (first second : Reading Cell Result) (memory : Int → Cell) :
    (if condition then first else second).value memory =
      if condition then first.value memory else second.value memory :=
  apply_ite (fun program : Reading Cell Result => program.value memory) ..

@[simp] theorem reads_ite (condition : Prop) [Decidable condition]
    (first second : Reading Cell Result) (memory : Int → Cell) :
    (if condition then first else second).reads memory =
      if condition then first.reads memory else second.reads memory :=
  apply_ite (fun program : Reading Cell Result => program.reads memory) ..

@[simp] theorem value_foldlM
    (step : Accumulated → Item → Reading Cell Accumulated)
    (initial : Accumulated) (items : List Item) (memory : Int → Cell) :
    (items.foldlM step initial).value memory =
      items.foldl (fun accumulated item =>
        (step accumulated item).value memory) initial := by
  induction items generalizing initial with
  | nil => rfl
  | cons item rest induction =>
      rw [List.foldlM_cons, value_bind, induction, List.foldl_cons]

/-- A loop whose steps read the same indices whatever was accumulated. -/
theorem reads_foldlM (footprint : Item → List Int)
    {step : Accumulated → Item → Reading Cell Accumulated}
    {memory : Int → Cell}
    (steady : ∀ accumulated item,
      (step accumulated item).reads memory = footprint item)
    (initial : Accumulated) (items : List Item) :
    (items.foldlM step initial).reads memory = items.flatMap footprint := by
  induction items generalizing initial with
  | nil => rfl
  | cons item rest induction =>
      rw [List.foldlM_cons, reads_bind, steady, induction, List.flatMap_cons]

@[simp] theorem value_collect
    (program : Item → Reading Cell (Option Result)) (items : List Item)
    (memory : Int → Cell) :
    (collect program items).value memory =
      items.filterMap fun item => (program item).value memory := by
  induction items with
  | nil => rfl
  | cons item rest induction =>
      cases hfound : (program item).value memory with
      | none => simp [collect, hfound, induction]
      | some result => simp [collect, hfound, induction]

@[simp] theorem reads_collect
    (program : Item → Reading Cell (Option Result)) (items : List Item)
    (memory : Int → Cell) :
    (collect program items).reads memory =
      items.flatMap fun item => (program item).reads memory := by
  induction items with
  | nil => rfl
  | cons item rest induction => simp [collect, induction]

@[simp] theorem value_gather
    (program : Item → Reading Cell (List Result)) (items : List Item)
    (memory : Int → Cell) :
    (gather program items).value memory =
      items.flatMap fun item => (program item).value memory := by
  induction items with
  | nil => rfl
  | cons item rest induction => simp [gather, induction]

@[simp] theorem reads_gather
    (program : Item → Reading Cell (List Result)) (items : List Item)
    (memory : Int → Cell) :
    (gather program items).reads memory =
      items.flatMap fun item => (program item).reads memory := by
  induction items with
  | nil => rfl
  | cons item rest induction => simp [gather, induction]

end Reading

end EmbeddedPortfolio.Program
