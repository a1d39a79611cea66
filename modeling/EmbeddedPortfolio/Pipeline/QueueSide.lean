import EmbeddedPortfolio.Pipeline.MainThreads

namespace EmbeddedPortfolio.Pipeline

open EmbeddedPortfolio.Transition Locations

/-! A frame queue between its streaming thread, the one thread that pops from
it and `main`. -/

variable {T : Type}

theorem takeFront_keeps {queue next : FrameQueue T} {result : Option T}
    (h : queue.takeFront = (result, next)) : next.closed = queue.closed := by
  rcases FrameQueue.takeFront_cases h with ⟨_, _, rfl⟩ | ⟨_, _, _, _, rfl⟩
  · rfl
  · rfl

theorem push_keeps {queue next : FrameQueue T} {value : T}
    {outcome : PushOutcome T} (h : queue.push value = some (outcome, next)) :
    next.closed = queue.closed := by
  rcases FrameQueue.push_cases h with
    ⟨_, _, rfl⟩ | ⟨_, _, _, _, _, _, rfl⟩ | ⟨_, _, _, rfl⟩
  · rfl
  · rfl
  · rfl

theorem MonitorStep.closes {monitor next : Monitor PipeThread T}
    {event : MonitorEvent PipeThread T}
    (step : MonitorStep monitor event next) :
    (∃ thread, event = .body (.close thread) ∧ next.queue.closed = true ∧
        next.location = Locations.move monitor.location thread .notifyAll) ∨
      next.queue.closed = monitor.queue.closed := by
  cases step with
  | push _ h => exact Or.inr (push_keeps h)
  | pop _ h => exact Or.inr (takeFront_keeps (FrameQueue.pop_cases h).2)
  | tryPop _ h => exact Or.inr (takeFront_keeps h)
  | close _ => exact Or.inl ⟨_, rfl, rfl, rfl⟩
  | _ => exact Or.inr rfl

theorem MonitorStep.awaited {monitor next : Monitor PipeThread T}
    {event : MonitorEvent PipeThread T} (step : MonitorStep monitor event next)
    (awaited : monitor.queue.closed = true → Awaited monitor.location)
    (closed : next.queue.closed = true) : Awaited next.location := by
  rcases step.closes with ⟨thread, _, _, hlocation⟩ | hkeeps
  · rw [hlocation]
    exact fun _ _ => ⟨thread, move_self ..⟩
  · rw [hkeeps] at closed
    have waking : Waking [] monitor := ⟨closed, by simp, awaited closed⟩
    exact (waking.step step).awaited

/-- Who may stand where: the worker waits, the streaming thread notifies one
and `main` notifies all. -/
def Entitled (worker : PipeThread) (popping playing notifying : Prop)
    (thread : PipeThread) : Location → Prop
  | .outside => ¬ (thread = .main ∧ notifying)
  | .waiting => thread = worker ∧ popping
  | .woken => thread = worker ∧ popping
  | .notifyOne => thread = .streaming ∧ playing
  | .notifyAll => thread = .main ∧ notifying

theorem Entitled.mono {worker : PipeThread}
    {popping playing notifying popping' playing' notifying' : Prop}
    (hpopping : popping → popping') (hplaying : playing → playing')
    (hnotifying : notifying ↔ notifying') {thread : PipeThread}
    {place : Location}
    (entitled : Entitled worker popping playing notifying thread place) :
    Entitled worker popping' playing' notifying' thread place := by
  cases place with
  | outside =>
      rintro ⟨hmain, h⟩
      exact entitled ⟨hmain, hnotifying.mpr h⟩
  | waiting => exact entitled.imp_right hpopping
  | woken => exact entitled.imp_right hpopping
  | notifyOne => exact entitled.imp_right hplaying
  | notifyAll => exact entitled.imp_right hnotifying.mp

def Seated (worker : PipeThread) (popping playing notifying : Prop)
    (location : PipeThread → Location) : Prop :=
  ∀ thread, Entitled worker popping playing notifying thread (location thread)

variable {worker : PipeThread} {popping playing notifying : Prop}
variable {location : PipeThread → Location}

theorem seated_outside :
    Seated worker popping playing False fun _ => .outside := by
  rintro thread ⟨_, h⟩
  exact h

theorem Seated.mono (seated : Seated worker popping playing notifying location)
    {popping' playing' notifying' : Prop} (hpopping : popping → popping')
    (hplaying : playing → playing') (hnotifying : notifying ↔ notifying') :
    Seated worker popping' playing' notifying' location :=
  fun thread => (seated thread).mono hpopping hplaying hnotifying

theorem Seated.move
    (seated : Seated worker popping playing notifying location)
    {popping' notifying' : Prop} {thread : PipeThread} {target : Location}
    (entitled : Entitled worker popping' playing notifying' thread target)
    (others : ∀ other place, other ≠ thread →
      Entitled worker popping playing notifying other place →
        Entitled worker popping' playing notifying' other place) :
    Seated worker popping' playing notifying'
      (Locations.move location thread target) := by
  intro other
  by_cases hsame : other = thread
  · subst hsame
    rw [move_self]
    exact entitled
  · rw [move_other _ _ hsame]
    exact others other _ hsame (seated other)

theorem Seated.leave
    (seated : Seated worker popping playing notifying location)
    (hworker : worker ≠ .main) (popping' : Prop) :
    Seated worker popping' playing notifying
      (Locations.move location worker .outside) := by
  apply seated.move
  · rintro ⟨hmain, _⟩
    exact hworker hmain
  · intro other place hother entitled
    cases place with
    | waiting => exact absurd entitled.1 hother
    | woken => exact absurd entitled.1 hother
    | _ => exact entitled

theorem Seated.close
    (seated : Seated worker popping playing notifying location) :
    Seated worker popping playing True
      (Locations.move location .main .notifyAll) := by
  apply seated.move
  · exact ⟨rfl, trivial⟩
  · intro other place hother entitled
    cases place with
    | outside =>
        rintro ⟨hmain, _⟩
        exact hother hmain
    | notifyAll => exact absurd entitled.1 hother
    | _ => exact entitled

theorem Seated.notifyAll
    (seated : Seated worker popping playing notifying location) :
    Seated worker popping playing False
      (wakeAll (Locations.move location .main .outside)) := by
  have hleft : Seated worker popping playing False
      (Locations.move location .main .outside) := by
    apply seated.move
    · rintro ⟨_, h⟩
      exact h
    · intro other place hother entitled
      cases place with
      | outside =>
          rintro ⟨_, h⟩
          exact h
      | notifyAll => exact absurd entitled.1 hother
      | _ => exact entitled
  intro thread
  have hthread := hleft thread
  unfold wakeAll
  split
  · rename_i hwaiting
    rw [hwaiting] at hthread
    exact hthread
  · exact hthread

theorem Seated.main_place
    (seated : Seated worker popping playing notifying location)
    (hworker : worker ≠ .main) :
    location .main = .notifyAll ∧ notifying ∨
      location .main = .outside ∧ ¬ notifying := by
  have hmain := seated .main
  cases hplace : location .main with
  | outside =>
      rw [hplace] at hmain
      exact Or.inr ⟨rfl, fun h => hmain ⟨rfl, h⟩⟩
  | waiting =>
      rw [hplace] at hmain
      exact absurd hmain.1.symm hworker
  | woken =>
      rw [hplace] at hmain
      exact absurd hmain.1.symm hworker
  | notifyOne =>
      rw [hplace] at hmain
      cases hmain.1
  | notifyAll =>
      rw [hplace] at hmain
      exact Or.inl ⟨rfl, hmain.2⟩

/-- What the streaming thread and the wait set do by themselves. -/
theorem Seated.streaming
    {monitor next : Monitor PipeThread T} {event : MonitorEvent PipeThread T}
    (seated : Seated worker popping playing notifying monitor.location)
    (step : MonitorStep monitor event next)
    (own : ofStreaming event = true)
    (hpushes : pushes event = true → playing) :
    Seated worker popping playing notifying next.location := by
  have others : ∀ thread other place, other ≠ thread →
      Entitled worker popping playing notifying other place →
        Entitled worker popping playing notifying other place :=
    fun _ _ _ _ => id
  cases step with
  | @push queue thread value outcome hthread h =>
      cases thread with
      | streaming =>
          apply seated.move _ (others _)
          cases outcome with
          | refused => exact fun h => nomatch h.1
          | stored => exact ⟨rfl, hpushes rfl⟩
          | displaced _ => exact ⟨rfl, hpushes rfl⟩
      | _ => cases own
  | @spurious thread hthread =>
      have hentitled := seated thread
      rw [hthread] at hentitled
      exact seated.move hentitled (others _)
  | @notifyOne thread chosen hthread hchosen =>
      cases thread with
      | streaming =>
          have hentitled := seated chosen
          rw [hchosen] at hentitled
          have hwoken : Entitled worker popping playing notifying chosen
            .woken := hentitled
          apply Seated.move _ hwoken (others _)
          exact seated.move (fun h => nomatch h.1) (others _)
      | _ => cases own
  | @notifyNobody thread hthread _ =>
      cases thread with
      | streaming => exact seated.move (fun h => nomatch h.1) (others _)
      | _ => cases own
  | _ => cases own

structure QueueSide (worker : PipeThread)
    (popping playing notifying shut : Prop)
    (monitor : Monitor PipeThread T) : Prop where
  seated : Seated worker popping playing notifying monitor.location
  awaited : monitor.queue.closed = true → Awaited monitor.location
  closed : shut → monitor.queue.closed = true

variable {shut : Prop} {monitor next : Monitor PipeThread T}
variable {event : MonitorEvent PipeThread T}

theorem QueueSide.mono
    (side : QueueSide worker popping playing notifying shut monitor)
    {popping' playing' notifying' shut' : Prop}
    (hpopping : popping → popping') (hplaying : playing → playing')
    (hnotifying : notifying ↔ notifying') (hshut : shut' → shut) :
    QueueSide worker popping' playing' notifying' shut' monitor :=
  ⟨side.seated.mono hpopping hplaying hnotifying, side.awaited,
    fun h => side.closed (hshut h)⟩

theorem QueueSide.step
    (side : QueueSide worker popping playing notifying shut monitor)
    (step : MonitorStep monitor event next)
    {popping' notifying' : Prop}
    (seated : Seated worker popping' playing notifying' next.location) :
    QueueSide worker popping' playing notifying' shut next := by
  refine ⟨seated, step.awaited side.awaited, ?_⟩
  intro h
  rcases step.closes with ⟨_, _, hclosed, _⟩ | hkeeps
  · exact hclosed
  · rw [hkeeps]
    exact side.closed h

theorem QueueSide.streaming
    (side : QueueSide worker popping playing notifying shut monitor)
    (step : MonitorStep monitor event next)
    (own : ofStreaming event = true)
    (hpushes : pushes event = true → playing) :
    QueueSide worker popping playing notifying shut next :=
  side.step step (side.seated.streaming step own hpushes)

theorem QueueSide.pop {result : Option T}
    (side : QueueSide worker popping playing notifying shut monitor)
    (hworker : worker ≠ .main)
    (step : MonitorStep monitor (.body (.pop worker result)) next)
    (popping' : Prop) :
    QueueSide worker popping' playing notifying shut next := by
  refine side.step step ?_
  cases step
  exact side.seated.leave hworker popping'

theorem QueueSide.wait
    (side : QueueSide worker popping playing notifying shut monitor)
    (step : MonitorStep monitor (.wait worker) next) (hpopping : popping) :
    QueueSide worker popping playing notifying shut next := by
  refine side.step step ?_
  cases step
  exact side.seated.move ⟨rfl, hpopping⟩ fun _ _ _ => id

/-- The streaming thread has left the queue for good. -/
theorem QueueSide.silence
    (side : QueueSide worker popping playing notifying shut monitor)
    (hstreaming : monitor.location .streaming = .outside) :
    QueueSide worker popping False notifying shut monitor := by
  refine ⟨?_, side.awaited, side.closed⟩
  intro thread
  have hthread := side.seated thread
  cases hplace : monitor.location thread with
  | notifyOne =>
      rw [hplace] at hthread
      rw [hthread.1, hstreaming] at hplace
      cases hplace
  | _ =>
      rw [hplace] at hthread
      exact hthread

theorem QueueSide.close
    (side : QueueSide worker popping playing notifying shut monitor)
    (step : MonitorStep monitor (.body (.close .main)) next) :
    QueueSide worker popping playing True True next := by
  refine ⟨?_, step.awaited side.awaited, ?_⟩
  · cases step
    exact side.seated.close
  · intro _
    cases step
    rfl

theorem QueueSide.notifyAll
    (side : QueueSide worker popping playing notifying shut monitor)
    (step : MonitorStep monitor (.notifyAll .main) next) :
    QueueSide worker popping playing False shut next := by
  refine side.step step ?_
  cases step
  exact side.seated.notifyAll

end EmbeddedPortfolio.Pipeline
