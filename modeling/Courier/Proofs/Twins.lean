import Courier.Proofs.Chronicle
import Courier.Proofs.PayloadLife
import Courier.Proofs.Resend

/-!
A run knows nothing of what happened to payloads that are not its own. The payloads that a run may come to are its
region, and it keeps to it: it opens and releases no other payload, and its requests carry no other
(`Confined.frame`, `Confined.within`). Of a payload in the region it sees as much as an opening shows. So two runs
of one command, one among these lives and one among those, do the same as long as no opening in the region tells
the lives apart (`Lives.Alike`). Each leg is taken twice for that (`Confined`), and the steps are made of the legs
(`Executor.confined_step`).
-/
namespace Courier

namespace Payload

/-- The payload is opened to the same stream, or fails with the same error, however often it was opened before. -/
def Steady (p : Payload) : Prop :=
  ∀ disk life opens, (p.openStream disk { life with opens }).value.1 = (p.openStream disk life).value.1

/-- No opening of the payload tells these lives apart. -/
structure Alike (p : Payload) (a b : Life) : Prop where
  released : a.released = b.released
  opens : p.Steady ∨ a.opens = b.opens

/-- Content in memory or in a file is steady, a one-shot stream is not, and a factory is if it makes the same each
time. -/
theorem steady_iff (p : Payload) : p.Steady ↔
    match p.content with
    | .memory _ | .file _ => True
    | .factory make => ∀ first second, make (first + 1) = make (second + 1)
    | .oneShot _ => False := by
  obtain ⟨content, metadata⟩ := p
  cases content with
  | memory bytes =>
    refine iff_of_true (fun disk life opens => ?_) trivial
    unfold openStream
    split <;> rfl
  | file name =>
    refine iff_of_true (fun disk life opens => ?_) trivial
    unfold openStream
    dsimp only [Writer.value_bind]
    cases disk.find name <;> cases life.released <;> rfl
  | factory make =>
    constructor
    · intro steady first second
      have same := steady {} { opens := second } first
      dsimp only [openStream, Bool.false_eq_true, ↓reduceIte, Writer.value_bind] at same
      revert same
      cases make (first + 1) <;> cases make (second + 1) <;> simp
    · intro same disk life opens
      unfold openStream
      dsimp only [Writer.value_bind]
      rw [same opens life.opens]
      cases make (life.opens + 1) <;> cases life.released <;> rfl
  | oneShot flow =>
    refine iff_of_false (fun steady => ?_) not_false
    cases steady {} {} 1

theorem output_openStream (p : Payload) (disk : Disk) (life : Life) :
    (p.openStream disk life).output = if life.released then [] else [.openingPayload p.source] := by
  unfold openStream
  split
  · rfl
  · simp only [Writer.output_bind, output_note]
    split
    · rfl
    · split <;> rfl
    · split <;> rfl
    · split <;> rfl

theorem life_release (p : Payload) (life : Life) :
    (p.release life).value.2 = { life with released := true } := by
  unfold release
  split
  · next gone =>
    obtain ⟨released, opens⟩ := life
    cases gone
    rfl
  · rfl

namespace Alike

variable {p : Payload} {a b : Life}

theorem refl (p : Payload) (life : Life) : p.Alike life life := ⟨rfl, .inr rfl⟩

theorem symm (alike : p.Alike a b) : p.Alike b a :=
  ⟨alike.released.symm, alike.opens.imp_right Eq.symm⟩

theorem trans {c : Life} (first : p.Alike a b) (second : p.Alike b c) : p.Alike a c where
  released := first.released.trans second.released
  opens := by
    rcases first.opens with steady | same
    · exact .inl steady
    · exact second.opens.imp_right same.trans

theorem opened (alike : p.Alike a b) (disk : Disk) :
    (p.openStream disk a).value.1 = (p.openStream disk b).value.1 := by
  obtain ⟨released, opens⟩ := a
  obtain ⟨rfl, steady | same⟩ := alike
  · exact steady disk b opens
  · rw [show opens = b.opens from same]

theorem output (alike : p.Alike a b) (disk : Disk) :
    (p.openStream disk a).output = (p.openStream disk b).output := by
  rw [output_openStream, output_openStream, alike.released]

/-- Lives that were alike are alike when some payload was opened in both. -/
theorem afterOpening (alike : p.Alike a b) (opened : Payload) (disk : Disk) :
    p.Alike (opened.openStream disk a).value.2 (opened.openStream disk b).value.2 := by
  rw [life_openStream, life_openStream, alike.released]
  split
  · exact alike
  · exact ⟨rfl, alike.opens.imp_right (congrArg (· + 1))⟩

end Alike

end Payload

namespace Lives

/-- No opening of a payload in the region tells the lives apart. -/
def Alike (own : SharedPayload → Prop) (a b : Lives) : Prop :=
  ∀ p, own p → p.payload.Alike (a p.id) (b p.id)

variable {own : SharedPayload → Prop} {a b : Lives}

theorem Alike.refl (own : SharedPayload → Prop) (lives : Lives) : Alike own lives lives :=
  fun p _ => .refl p.payload (lives p.id)

theorem Alike.symm (alike : Alike own a b) : Alike own b a := fun p mine => (alike p mine).symm

theorem Alike.trans {c : Lives} (first : Alike own a b) (second : Alike own b c) : Alike own a c :=
  fun p mine => (first p mine).trans (second p mine)

theorem Alike.set (alike : Alike own a b) {id : PayloadId} {here there : Life}
    (same : ∀ p : Payload, p.Alike (a id) (b id) → p.Alike here there) :
    Alike own (a.set id here) (b.set id there) := by
  intro p mine
  by_cases this : p.id = id
  · rw [this, set_same, set_same]
    exact same p.payload (this ▸ alike p mine)
  · rw [set_other _ _ this, set_other _ _ this]
    exact alike p mine

end Lives

/-- The payload of the request, if it has one, is in the region. -/
def Request.Carries (own : SharedPayload → Prop) (request : Request) : Prop :=
  ∀ p, request.payload = some p → own p

/-- The command with this number was built with a payload in the region, and its request has no other. -/
structure Command.Within (own : SharedPayload → Prop) (number : Nat) (c : Command) : Prop where
  number : c.number = number
  initial : ∀ p, c.initialPayload = some p → own p
  base : c.request.Carries own

/-- The run has to do with payloads in the region only. -/
structure Run.Within (own : SharedPayload → Prop) (number : Nat) (run : Run) : Prop where
  command : run.command.Within own number
  going : ∀ request ∈ run.phase.request?, request.Carries own

/-- A run without a request on its way. -/
theorem Command.Within.idle {own : SharedPayload → Prop} {number : Nat} {c : Command}
    (within : c.Within own number) (lives : Lives) {phase : Phase} (idle : phase.request? = none) :
    Run.Within own number ⟨c, lives, phase⟩ := by
  refine ⟨within, fun request going => ?_⟩
  rw [show phase.request? = none from idle] at going
  cases going

/-- The run among other lives. -/
def Run.among (run : Run) (lives : Lives) : Run := { run with lives }

/-- A leg from these lives and its twin from others. Both do the same; the leg keeps to the region. -/
structure Confined (own : SharedPayload → Prop) (number : Nat) (lives : Lives) (leg twin : Traced Run) :
    Prop where
  output : leg.output = twin.output
  command : leg.value.command = twin.value.command
  phase : leg.value.phase = twin.value.phase
  alike : Lives.Alike own leg.value.lives twin.value.lives
  frame : ∀ id, (∀ p, own p → p.id ≠ id) → leg.value.lives id = lives id
  within : leg.value.Within own number

namespace Confined

variable {own : SharedPayload → Prop} {number : Nat} {lives : Lives} {leg twin : Traced Run} {α β : Type}

/-- A run that waits, or is over. -/
theorem stays {command : Command} {here there : Lives} {phase : Phase} (alike : Lives.Alike own here there)
    (within : Run.Within own number ⟨command, here, phase⟩) :
    Confined own number here (pure ⟨command, here, phase⟩) (pure ⟨command, there, phase⟩) :=
  ⟨rfl, rfl, rfl, alike, fun _ _ => rfl, within⟩

theorem bind {x y : Noted α} {f g : α → Traced Run} (same : x.output = y.output)
    (rest : Confined own number lives (f x.value) (g y.value)) :
    Confined own number lives (x.traced >>= f) (y.traced >>= g) where
  output := by
    simp only [Writer.output_bind, Noted.traced, Writer.output_mapOutput, Writer.value_mapOutput, same,
      rest.output]
  command := rest.command
  phase := rest.phase
  alike := rest.alike
  frame := rest.frame
  within := rest.within

theorem tell {event : Event} {f g : Unit → Traced Run} (rest : Confined own number lives (f ()) (g ())) :
    Confined own number lives (Writer.tell event >>= f) (Writer.tell event >>= g) where
  output := by rw [Writer.output_bind, Writer.output_bind, Writer.value_tell, rest.output]
  command := rest.command
  phase := rest.phase
  alike := rest.alike
  frame := rest.frame
  within := rest.within

theorem ite {c c' : Prop} [Decidable c] [Decidable c'] {yes no yes' no' : Traced Run} (same : c ↔ c')
    (first : Confined own number lives yes yes') (second : Confined own number lives no no') :
    Confined own number lives (if c then yes else no) (if c' then yes' else no') := by
  by_cases asked : c
  · rw [if_pos asked, if_pos (same.mp asked)]
    exact first
  · rw [if_neg asked, if_neg (mt same.mpr asked)]
    exact second

/-- A leg after something was done to a payload in the region. -/
theorem after {p : SharedPayload} (mine : own p) (life : Life)
    (rest : Confined own number (lives.set p.id life) leg twin) : Confined own number lives leg twin where
  output := rest.output
  command := rest.command
  phase := rest.phase
  alike := rest.alike
  frame := by
    intro id other
    rw [rest.frame id other, Lives.set_other _ _ (other p mine).symm]
  within := rest.within

end Confined

namespace Command

variable {c : Command} {p : SharedPayload}

theorem lives_releasePayload (held : c.initialPayload = some p) (lives : Lives) :
    (c.releasePayload lives).value.2 = lives.set p.id { (lives p.id) with released := true } := by
  unfold releasePayload
  rw [held, ← Payload.life_release p.payload]
  dsimp only [Writer.value_bind]
  split <;> rfl

theorem lives_releasePayload_of_none (none : c.initialPayload = none) (lives : Lives) :
    (c.releasePayload lives).value.2 = lives := by
  unfold releasePayload
  rw [none]
  rfl

/-- What is told of a release depends on whether the payload was released before. -/
theorem output_releasePayload_of_alike {own : SharedPayload → Prop} {a b : Lives}
    (alike : Lives.Alike own a b) (initial : ∀ p, c.initialPayload = some p → own p) :
    (c.releasePayload a).output = (c.releasePayload b).output := by
  unfold releasePayload Payload.release
  cases held : c.initialPayload with
  | none => rfl
  | some p =>
    dsimp only
    rw [(alike p (initial p held)).released]
    cases (b p.id).released <;> rfl

/-- Lives that were alike are alike when a command has let go of its payload in both. -/
theorem alike_releasePayload {own : SharedPayload → Prop} {a b : Lives} (c : Command)
    (alike : Lives.Alike own a b) :
    Lives.Alike own (c.releasePayload a).value.2 (c.releasePayload b).value.2 := by
  cases held : c.initialPayload with
  | none =>
    rw [lives_releasePayload_of_none held, lives_releasePayload_of_none held]
    exact alike
  | some p =>
    rw [lives_releasePayload held, lives_releasePayload held]
    exact alike.set fun q same => ⟨rfl, same.opens⟩

theorem releasePayload_apart {own : SharedPayload → Prop} (lives : Lives)
    (initial : ∀ p, c.initialPayload = some p → own p) {id : PayloadId} (other : ∀ p, own p → p.id ≠ id) :
    (c.releasePayload lives).value.2 id = lives id := by
  cases held : c.initialPayload with
  | none => rw [lives_releasePayload_of_none held]
  | some p => rw [lives_releasePayload held, Lives.set_other _ _ (other p (initial p held)).symm]

end Command

/-- A redirect leaves the payload or drops it. -/
theorem RedirectPolicy.payload_hop (request : Request) (status : Nat) (target : Url) :
    (hop request status target).payload = Option.none ∨ (hop request status target).payload = request.payload := by
  unfold hop
  split
  · exact .inl rfl
  · exact .inr rfl

theorem Request.Carries.next {own : SharedPayload → Prop} {policy : RedirectPolicy} {request next : Request}
    {response : Response} {hops : Nat} (carried : request.Carries own)
    (leads : (policy.nextRequest request response hops).value = .ok (some next)) : next.Carries own := by
  unfold RedirectPolicy.nextRequest at leads
  split at leads
  · cases leads
  · split at leads
    · cases leads
    · split at leads
      · cases leads
      · next target _ =>
        cases leads
        intro p full
        obtain dropped | left := RedirectPolicy.payload_hop request response.status target
        · cases dropped.symm.trans full
        · exact carried p (left.symm.trans full)

theorem Request.Carries.redirected {own : SharedPayload → Prop} {request : Request}
    (carried : request.Carries own) (hop : Request) : (Command.redirected request hop).Carries own := by
  intro p full
  rw [redirected_payload] at full
  split at full
  · exact carried p full
  · cases full

section

variable {own : SharedPayload → Prop} {number : Nat} (run : Run) {lives : Lives}
  (alike : Lives.Alike own run.lives lives) (within : run.command.Within own number)

include alike within

namespace Run

theorem confined_finish (outcome : Outcome) :
    Confined own number run.lives (run.finish outcome) ((run.among lives).finish outcome) := by
  let final : Command := { run.command with state := if outcome.isOk then .succeeded else .failed }
  have ended : final.Within own number := ⟨within.number, within.initial, within.base⟩
  have told := Command.output_releasePayload_of_alike (c := final) alike ended.initial
  have closed : Confined own number run.lives
      (pure ⟨final, (final.releasePayload run.lives).value.2, .finished outcome⟩)
      (pure ⟨final, (final.releasePayload lives).value.2, .finished outcome⟩) :=
    ⟨rfl, rfl, rfl, final.alike_releasePayload alike,
      fun _ other => Command.releasePayload_apart (c := final) run.lives ended.initial other,
      ended.idle _ rfl⟩
  unfold finish
  refine .bind rfl (.bind told ?_)
  cases outcome with
  | ok response => exact .bind rfl closed
  | error error => exact .bind rfl closed

theorem confined_fail (error : CommandError) :
    Confined own number run.lives (run.fail error) ((run.among lives).fail error) :=
  run.confined_finish alike within _

theorem confined_cancel : Confined own number run.lives run.cancel (run.among lives).cancel :=
  run.confined_finish alike within _

end Run

namespace Executor

variable (e : Executor) (disk : Disk)

theorem confined_handOver {request : Request} (carried : request.Carries own) (hops : Nat)
    (body : Option Flow) :
    Confined own number run.lives (handOver run request hops body)
      (handOver (run.among lives) request hops body) := by
  have sent : run.command.sent.Within own number := ⟨within.number, within.initial, within.base⟩
  unfold handOver
  refine .bind rfl (.bind rfl (.ite .rfl ?_ ?_))
  · exact .bind rfl ((run.withCommand run.command.sent).confined_cancel alike sent)
  · refine .tell (.stays alike ⟨sent, ?_⟩)
    rintro _ ⟨⟩
    exact carried

theorem confined_afterOpening {request : Request} (carried : request.Carries own) (hops : Nat)
    (opened : Except PayloadError Stream) :
    Confined own number run.lives (afterOpening run disk request hops opened)
      (afterOpening (run.among lives) disk request hops opened) := by
  cases opened with
  | error error => cases error <;> exact run.confined_fail alike within _
  | ok stream => exact confined_handOver run alike within carried hops _

theorem confined_send {request : Request} (carried : request.Carries own) (hops : Nat) :
    Confined own number run.lives (send run disk request hops)
      (send (run.among lives) disk request hops) := by
  refine .ite .rfl (run.confined_cancel alike within) ?_
  cases held : request.payload with
  | none => exact confined_handOver run alike within carried hops none
  | some p =>
    have mine := carried p held
    have same := alike p mine
    have opened : Lives.Alike own (run.lives.set p.id (p.payload.openStream disk (run.lives p.id)).value.2)
        (lives.set p.id (p.payload.openStream disk (lives p.id)).value.2) :=
      alike.set fun q same => same.afterOpening p.payload disk
    refine .bind (same.output disk) ?_
    dsimp only [Run.among]
    rw [← same.opened disk]
    refine .after mine (p.payload.openStream disk (run.lives p.id)).value.2
      (.ite (by rw [same.released]) ?_ ?_)
    · refine .stays opened ⟨within, ?_⟩
      rintro _ ⟨⟩
      exact carried
    · exact confined_afterOpening { run with lives := run.lives.set p.id _ } opened within
        disk carried hops _

theorem confined_pause (delay : Duration) :
    Confined own number run.lives (pause run delay) (pause (run.among lives) delay) := by
  have resting : run.command.resting.Within own number := ⟨within.number, within.initial, within.base⟩
  unfold pause
  refine .bind rfl (.ite .rfl ?_ ?_)
  · exact .bind rfl ((run.withCommand run.command.resting).confined_cancel alike resting)
  · exact .tell (.stays alike (resting.idle _ rfl))

theorem confined_judgeFailure (error : TransportError) :
    Confined own number run.lives (e.judgeFailure run error) (e.judgeFailure (run.among lives) error) := by
  have unanswered : run.command.unanswered.Within own number :=
    ⟨within.number, within.initial, within.base⟩
  refine .ite .rfl (run.confined_fail alike within _) (.ite .rfl ?_ (.bind rfl ?_))
  · exact (run.withCommand run.command.unanswered).confined_fail alike unanswered _
  · exact confined_pause (run.withCommand run.command.unanswered) alike unanswered _

theorem confined_judge (response : Response) :
    Confined own number run.lives (e.judge run response) (e.judge (run.among lives) response) := by
  have charged : (run.command.answeredBy e response).Within own number :=
    ⟨within.number, within.initial, within.base⟩
  unfold judge
  refine .bind rfl ?_
  -- Both ask the policy about the command with the response on its account.
  change Confined own number run.lives
    (Noted.traced (e.retryPolicy.shouldRetry (run.command.answeredBy e response) response) >>= _)
    (Noted.traced (e.retryPolicy.shouldRetry (run.command.answeredBy e response) response) >>= _)
  refine .bind rfl (.tell ?_)
  generalize (e.retryPolicy.shouldRetry (run.command.answeredBy e response) response).value = verdict
  cases verdict with
  | doNotRetry reason =>
    refine .bind rfl ?_
    exact (run.withCommand (run.command.answeredBy e response)).confined_finish alike charged _
  | retry delay attempt =>
    refine .ite .rfl ?_ (.bind rfl (.bind rfl ?_))
    · exact (run.withCommand (run.command.answeredBy e response)).confined_fail alike charged _
    · exact confined_pause (run.withCommand (run.command.answeredBy e response)) alike charged _

theorem confined_takeError (response : Response) :
    Confined own number run.lives (e.takeError disk run response)
      (e.takeError disk (run.among lives) response) := by
  refine .ite .rfl (.bind rfl (run.confined_cancel alike within)) (.bind rfl ?_)
  generalize (response.startBuffering disk).value = buffering
  cases buffering with
  | settled buffered => exact confined_judge run alike within e buffered
  | waiting body flow => exact .stays alike (within.idle _ rfl)

theorem confined_takeResponse {request : Request} (carried : request.Carries own) (hops : Nat)
    (response : Response) :
    Confined own number run.lives (e.takeResponse disk run request hops response)
      (e.takeResponse disk (run.among lives) request hops response) := by
  refine .bind rfl (.bind rfl ?_)
  cases next : (e.redirectPolicy.nextRequest request response hops).value with
  | error error => exact run.confined_fail alike within _
  | ok follows =>
    cases follows with
    | none =>
      exact .ite .rfl (run.confined_finish alike within _) (confined_takeError run alike within e disk response)
    | some hop =>
      have bound : (run.command.bound hop).Within own number :=
        ⟨within.number, within.initial, within.base.redirected hop⟩
      refine .bind rfl (.bind rfl ?_)
      exact confined_send (run.withCommand (run.command.bound hop)) alike bound disk
        (carried.next next) _

/-- Whatever the filters make of a request in the region of the command with the number is in the region. -/
def Fills (e : Executor) (own : SharedPayload → Prop) (number : Nat) : Prop :=
  ∀ round request filtered, Request.Carries own request →
    (e.filters.apply (.made number round) request).value = .ok filtered → filtered.Carries own

theorem confined_beginAttempt (fills : e.Fills own number) :
    Confined own number run.lives (e.beginAttempt disk run) (e.beginAttempt disk (run.among lives)) := by
  have counted : ({ run.command with rounds := run.command.rounds + 1 } : Command).Within own number :=
    ⟨within.number, within.initial, within.base⟩
  have filtered : run.command.filtered.Within own number := ⟨within.number, within.initial, within.base⟩
  unfold beginAttempt
  refine .bind rfl ?_
  dsimp only [Run.among]
  cases applied : (e.filters.apply (.made run.command.number run.command.rounds) run.command.request).value with
  | error error =>
    exact (run.withCommand { run.command with rounds := run.command.rounds + 1 }).confined_fail
      alike counted _
  | ok request =>
    rw [within.number] at applied
    refine .bind rfl ?_
    exact confined_send (run.withCommand run.command.filtered) alike filtered disk
      (fills _ _ _ within.base applied) 0

theorem confined_start (fills : e.Fills own number) :
    Confined own number run.lives (e.start disk run) (e.start disk (run.among lives)) := by
  refine .ite .rfl ?_ (confined_beginAttempt run alike within e disk fills)
  exact .stays alike (within.idle _ rfl)

end Executor

end

/-- A step of a run does the same whatever happened to payloads that the run has nothing to do with, and keeps to the
payloads that it has. -/
theorem Executor.confined_step {own : SharedPayload → Prop} {number : Nat} {run : Run} {lives : Lives}
    (e : Executor) (disk : Disk) (alike : Lives.Alike own run.lives lives) (within : run.Within own number)
    (fills : e.Fills own number) (signal : Signal) :
    Confined own number run.lives (e.step disk signal run) (e.step disk signal (run.among lives)) := by
  obtain ⟨command, before, phase⟩ := run
  obtain ⟨within, going⟩ := within
  have stays : Confined own number before (pure ⟨command, before, phase⟩) (pure ⟨command, lives, phase⟩) :=
    .stays alike ⟨within, going⟩
  have heeds : ∀ now, ({ command with cancelled := command.cancelled || now } : Command).Within own number :=
    fun _ => ⟨within.number, within.initial, within.base⟩
  let heeding (now : Bool) (phase : Phase) : Run :=
    ⟨{ command with cancelled := command.cancelled || now }, before, phase⟩
  cases signal with
  | opened =>
    cases phase with
    | opening request hops opened =>
      exact confined_afterOpening ⟨command, before, _⟩ alike within disk (going _ rfl) hops opened
    | _ => exact stays
  | answered answer taken meanwhile =>
    cases phase with
    | sending request hops body =>
      cases answer with
      | error error => exact confined_judgeFailure (heeding meanwhile _) alike (heeds _) e error
      | ok response =>
        exact confined_takeResponse (heeding meanwhile _) alike (heeds _) e disk (going _ rfl) hops _
    | _ => cases answer <;> exact stays
  | bodyRead meanwhile =>
    cases phase with
    | reading response body flow =>
      have judged : ∀ buffered, Confined own number before
          (e.judge (heeding meanwhile (.reading response body flow)) buffered)
          (e.judge ((heeding meanwhile (.reading response body flow)).among lives) buffered) :=
        fun buffered => confined_judge (heeding meanwhile _) alike (heeds _) e buffered
      simp only [step, Run.among]
      cases flow.readUpTo e.maxErrorBodyBytes with
      | waiting => exact stays
      | done bytes => exact .bind rfl (judged _)
      | failed error => exact .bind rfl (judged _)
    | _ => exact stays
  | pauseOver meanwhile =>
    cases phase with
    | pausing delay => exact confined_beginAttempt (heeding meanwhile _) alike (heeds _) e disk fills
    | _ => exact stays
  | cancelled =>
    have ends : ∀ phase, Confined own number before (heeding true phase).cancel
        ((heeding true phase).among lives).cancel :=
      fun phase => (heeding true phase).confined_cancel alike (heeds true)
    cases phase with
    | sending request hops body => exact .bind rfl (ends _)
    | reading response body flow => exact .bind rfl (ends _)
    | pausing delay => exact .bind rfl (ends _)
    | idle => exact .stays alike ⟨heeds true, going⟩
    | opening request hops opened => exact .stays alike ⟨heeds true, going⟩
    | finished outcome => exact .stays alike ⟨heeds true, going⟩

end Courier
