import Courier.Proofs.Bounds
import Courier.Proofs.Filtering
import Courier.Proofs.Twins
import Mathlib.Data.List.Induction
import Mathlib.Data.List.Infix
import Mathlib.Logic.Function.Basic

/-!
Commands in company. Any number of commands are run with one executor, a turn at a time and in whatever order: a turn
goes from one point where a run waits to the next. The commands have nothing in common but the executor, the files,
and what has happened to payloads. So the company of others changes nothing for a command
(`Company.commands_do_not_interfere`) unless another command that has the same payload object ends before it: that
one lets go of the payload for both (`Company.clone_ends_for_want_of_payload`).
-/
namespace Courier

/-- The filter puts the payload into a request, and it is neither the one that the request had nor made for it. -/
def Filter.Lends (filter : Filter) (p : SharedPayload) : Prop :=
  ∃ fresh request filtered, filter.transform fresh request = .ok filtered ∧ filtered.payload = some p ∧
    request.payload ≠ some p ∧ p.id ≠ fresh

/-- What the chain makes of a request has a payload that the request had, that a filter made, or that one lent. -/
theorem FilterChain.carries_applyAll {own : SharedPayload → Prop} {chain : FilterChain}
    {fresh : Nat → PayloadId} {request filtered : Request}
    (made : ∀ p position, p.id = fresh position → own p)
    (lent : ∀ filter ∈ chain, ∀ p, filter.Lends p → own p) (carried : request.Carries own)
    (applied : (chain.applyAll fresh request).value = .ok filtered) : filtered.Carries own := by
  refine of_applyAll (P := Request.Carries own) ?_ carried applied
  intro filter belongs position before changed carries transforms p full
  by_cases kept : before.payload = some p
  · exact carries p kept
  · by_cases new : p.id = fresh position
    · exact made p position new
    · exact lent filter belongs p ⟨_, _, _, transforms, full, kept, new⟩

namespace Executor

/-- A filter of the executor lends the payload. -/
def Lends (e : Executor) (p : SharedPayload) : Prop := ∃ filter ∈ e.filters, filter.Lends p

/-- The payloads that a command with this number may come to: the one it was built with, those that filters make for
it, and those that filters lend. -/
def Reaches (e : Executor) (number : Nat) (initial : Option SharedPayload) (p : SharedPayload) : Prop :=
  initial = some p ∨ (∃ round position, p.id = .made number round position) ∨ e.Lends p

theorem fills_reaches (e : Executor) (number : Nat) (initial : Option SharedPayload) :
    e.Fills (e.Reaches number initial) number := by
  intro round request filtered carried applied
  rw [FilterChain.apply_value] at applied
  refine FilterChain.carries_applyAll (fun p position named => ?_) (fun filter belongs p lends => ?_) carried
    applied
  · exact .inr (.inl ⟨round, position, named⟩)
  · exact .inr (.inr ⟨filter, belongs, lends⟩)

/-- A turn of a run: it begins, or is carried on after the signal. -/
def advance (e : Executor) (disk : Disk) (signal : Signal) (run : Run) : Traced Run :=
  match run.phase with
  | .idle => e.start disk run
  | _ => e.step disk signal run

theorem advance_of_begun (e : Executor) (disk : Disk) (signal : Signal) {run : Run} (begun : run.phase ≠ .idle) :
    e.advance disk signal run = e.step disk signal run := by
  unfold advance
  split
  · next idle => exact absurd idle begun
  · rfl

variable (e : Executor) (disk : Disk)

theorem confined_advance {own : SharedPayload → Prop} {number : Nat} {run : Run} {lives : Lives}
    (alike : Lives.Alike own run.lives lives) (within : run.Within own number) (fills : e.Fills own number)
    (signal : Signal) :
    Confined own number run.lives (e.advance disk signal run) (e.advance disk signal (run.among lives)) := by
  have steps := e.confined_step disk alike within fills signal
  obtain ⟨command, before, phase⟩ := run
  cases phase with
  | idle => exact confined_start _ alike within.command e disk fills
  | _ => exact steps

/-- What comes of a finished run does not depend on what happened to payloads, nor add to it. -/
theorem advance_of_finished (command : Command) (outcome : Outcome) (signal : Signal) :
    ∃ later, ∀ lives, e.advance disk signal ⟨command, lives, .finished outcome⟩ =
      pure ⟨later, lives, .finished outcome⟩ := by
  cases signal with
  | cancelled => exact ⟨{ command with cancelled := command.cancelled || true }, fun _ => rfl⟩
  | _ => exact ⟨command, fun _ => rfl⟩

/-- A turn is the same among other lives if the run is over or cannot tell them apart. -/
theorem advance_among {own : SharedPayload → Prop} {number : Nat} {run : Run} {lives : Lives}
    (alike : run.phase.isFinished = false → Lives.Alike own run.lives lives) (within : run.Within own number)
    (fills : e.Fills own number) (signal : Signal) :
    let here := e.advance disk signal run
    let there := e.advance disk signal (run.among lives)
    here.output = there.output ∧ here.value.command = there.value.command ∧
      here.value.phase = there.value.phase ∧
      (here.value.phase.isFinished = false → Lives.Alike own here.value.lives there.value.lives) := by
  cases ended : run.phase.isFinished with
  | true =>
    obtain ⟨command, before, phase⟩ := run
    obtain ⟨outcome, rfl⟩ := Phase.isFinished_iff.mp ended
    obtain ⟨later, stays⟩ := e.advance_of_finished disk command outcome signal
    unfold Run.among
    rw [stays, stays]
    exact ⟨rfl, rfl, rfl, nofun⟩
  | false =>
    have confined := e.confined_advance disk (alike ended) within fills signal
    exact ⟨confined.output, confined.command, confined.phase, fun _ => confined.alike⟩

end Executor

/-- `later` has the payload that the command was built with, and has released no other, nor that one unless it is
over. -/
structure Run.Spares (run later : Run) : Prop where
  initialPayload : later.command.initialPayload = run.command.initialPayload
  released : ∀ id, (later.phase.isFinished = false ∨ ∀ p, run.command.initialPayload = some p → p.id ≠ id) →
    (later.lives id).released = (run.lives id).released

theorem Chronicled.spares {discreet : Prop} {run : Run} {leg : Traced Run}
    (chronicled : Chronicled discreet run leg) : run.Spares leg.value := by
  cases chronicled with
  | onward states told live state holds runs => exact ⟨holds.initialPayload, fun id _ => holds.released id⟩
  | ended states last outcome now told live state holds value =>
    rw [value]
    refine ⟨holds.initialPayload, fun id spared => ?_⟩
    have other : ∀ p, last.command.initialPayload = some p → p.id ≠ id := by
      rcases spared with runs | other
      · cases runs
      · exact holds.initialPayload ▸ other
    rw [← holds.released id]
    exact congrArg Life.released (Command.releasePayload_apart (c := last.command) last.lives
      (fun _ held => held) other)

theorem Executor.spares_advance (e : Executor) (disk : Disk) (signal : Signal) (run : Run) :
    run.Spares (e.advance disk signal run).value := by
  obtain ⟨command, lives, phase⟩ := run
  cases phase with
  | idle =>
    by_cases ended : command.state.isTerminal = true
    · have refused : e.advance disk signal ⟨command, lives, .idle⟩ =
          pure ⟨command, lives, .finished (.error (.invalidState command.state))⟩ := if_pos ended
      rw [refused]
      exact ⟨rfl, fun _ _ => rfl⟩
    · have begins : e.advance disk signal ⟨command, lives, .idle⟩ =
          e.beginAttempt disk ⟨command, lives, .idle⟩ := if_neg ended
      rw [begins]
      have chronicled : Chronicled True ⟨command, lives, .idle⟩ (e.beginAttempt disk ⟨command, lives, .idle⟩) :=
        chronicled_beginAttempt disk _
      exact chronicled.spares
  | finished outcome =>
    cases signal with
    | cancelled => exact ⟨rfl, fun _ _ => rfl⟩
    | _ => exact ⟨rfl, fun _ _ => rfl⟩
  | _ => exact (chronicled_step disk signal _ rfl).spares

/-- The payload objects of commands with these requests can be told apart. What a request was given is named so, and
so is what the filters lend, which is steady and nothing that a command was built with. -/
structure Executor.TellsApart (e : Executor) (requests : Nat → Request) : Prop where
  given : ∀ i p, (requests i).payload = some p → ∃ n, p.id = .given n
  lent : ∀ p, e.Lends p → ∃ n, p.id = .given n
  steady : ∀ p, e.Lends p → p.payload.Steady
  unbuilt : ∀ p, e.Lends p → ∀ i q, (requests i).payload = some q → q.id ≠ p.id

/-- Two commands meet in a payload that both were built with, or in one that the filters lend. -/
theorem Executor.TellsApart.meet {e : Executor} {requests : Nat → Request} (apart : e.TellsApart requests)
    {i j : Nat} (other : j ≠ i) {p q : SharedPayload} (mine : e.Reaches i (requests i).payload p)
    (theirs : e.Reaches j (requests j).payload q) (same : q.id = p.id) :
    ((requests i).payload = some p ∧ (requests j).payload = some q) ∨
      (p.payload.Steady ∧ ∀ r, (requests j).payload = some r → r.id ≠ p.id) := by
  rcases mine with built | ⟨round, position, made⟩ | lent
  · obtain ⟨n, given⟩ := apart.given i p built
    rcases theirs with alsoBuilt | ⟨round, position, made⟩ | lent
    · exact .inl ⟨built, alsoBuilt⟩
    · rw [made, given] at same
      cases same
    · exact absurd same.symm (apart.unbuilt q lent i p built)
  · rcases theirs with built | ⟨round', position', madeToo⟩ | lent
    · obtain ⟨n, given⟩ := apart.given j q built
      rw [made, given] at same
      cases same
    · rw [made, madeToo] at same
      cases same
      exact absurd rfl other
    · obtain ⟨n, given⟩ := apart.lent q lent
      rw [made, given] at same
      cases same
  · exact .inr ⟨apart.steady p lent, apart.unbuilt p lent j⟩

/-- A command in company: where it stands, how many turns it had, and what it did in them. -/
structure Member where
  command : Command
  phase : Phase := .idle
  turns : Nat := 0
  history : List Event := []

/-- What the world tells each command at its next turn, by the number of its turns and by what it did in them. It
knows nothing of the other commands when it answers one. -/
abbrev World := Nat → Nat → List Event → Signal

/-- Commands that are run side by side, with what has happened to the payloads. -/
structure Company where
  members : Nat → Member
  lives : Lives

namespace Company

/-- Commands with these requests, before the first turn. -/
def gathered (requests : Nat → Request) (retrySafe cancelled : Nat → Bool) (lives : Lives) : Company where
  members i := { command := .built i (requests i) (retrySafe i) (cancelled i) }
  lives := lives

/-- The run of one of the commands. -/
def run (company : Company) (i : Nat) : Run :=
  ⟨(company.members i).command, company.lives, (company.members i).phase⟩

/-- What one of the commands is told at its next turn. -/
def told (world : World) (company : Company) (i : Nat) : Signal :=
  world i (company.members i).turns (company.members i).history

/-- A turn of one of the commands. -/
def turn (e : Executor) (disk : Disk) (world : World) (company : Company) (i : Nat) : Company :=
  let member := company.members i
  let next := e.advance disk (company.told world i) (company.run i)
  { members := Function.update company.members i
      ⟨next.value.command, next.value.phase, member.turns + 1, member.history ++ next.output⟩
    lives := next.value.lives }

/-- Turns of the commands in this order. -/
def play (e : Executor) (disk : Disk) (world : World) (company : Company) (schedule : List Nat) : Company :=
  schedule.foldl (turn e disk world) company

variable {e : Executor} {disk : Disk} {world : World} {company alone : Company} {i j : Nat}

theorem members_turn_same (company : Company) (i : Nat) :
    let next := e.advance disk (company.told world i) (company.run i)
    (company.turn e disk world i).members i =
      ⟨next.value.command, next.value.phase, (company.members i).turns + 1,
        (company.members i).history ++ next.output⟩ :=
  Function.update_self i _ company.members

theorem members_turn_other (company : Company) (other : j ≠ i) :
    (company.turn e disk world i).members j = company.members j :=
  Function.update_of_ne other _ company.members

theorem play_concat (company : Company) (schedule : List Nat) :
    company.play e disk world (schedule ++ [i]) = (company.play e disk world schedule).turn e disk world i := by
  rw [play, List.foldl_append]
  rfl

theorem run_turn_same (company : Company) (i : Nat) :
    (company.turn e disk world i).run i = (e.advance disk (company.told world i) (company.run i)).value := by
  unfold run
  rw [members_turn_same]
  rfl

theorem run_turn_other (company : Company) (other : j ≠ i) :
    (company.turn e disk world i).run j = (company.run j).among (company.turn e disk world i).lives := by
  unfold run
  rw [members_turn_other company other]
  rfl

/-- Each command has the number of its place and the payload of its request, and has to do with payloads that it may
come to only. -/
structure Orderly (e : Executor) (requests : Nat → Request) (company : Company) : Prop where
  built : ∀ i, (company.members i).command.initialPayload = (requests i).payload
  within : ∀ i, (company.run i).Within (e.Reaches i (requests i).payload) i

/-- Command `i` stands where it stands alone, and as long as it is on its way no payload that it may come to shows
that others were there. -/
structure Alongside (e : Executor) (requests : Nat → Request) (i : Nat) (company alone : Company) : Prop where
  member : company.members i = alone.members i
  alike : (company.members i).phase.isFinished = false →
    Lives.Alike (e.Reaches i (requests i).payload) company.lives alone.lives

variable {requests : Nat → Request}

theorem orderly_gathered (e : Executor) (requests : Nat → Request) (retrySafe cancelled : Nat → Bool)
    (lives : Lives) : (gathered requests retrySafe cancelled lives).Orderly e requests where
  built _ := rfl
  within i := by
    have built : (Command.built i (requests i) (retrySafe i) (cancelled i)).Within
        (e.Reaches i (requests i).payload) i := ⟨rfl, fun _ held => .inl held, fun _ held => .inl held⟩
    exact built.idle lives rfl

theorem Orderly.turn (orderly : company.Orderly e requests) (i : Nat) :
    (company.turn e disk world i).Orderly e requests := by
  have spares := e.spares_advance disk (company.told world i) (company.run i)
  have confined := e.confined_advance disk (.refl _ (company.run i).lives) (orderly.within i)
    (e.fills_reaches i (requests i).payload) (company.told world i)
  constructor
  · intro j
    by_cases same : j = i
    · subst same
      rw [members_turn_same]
      exact spares.initialPayload.trans (orderly.built j)
    · rw [members_turn_other company same]
      exact orderly.built j
  · intro j
    by_cases same : j = i
    · subst same
      rw [run_turn_same]
      exact confined.within
    · rw [run_turn_other company same]
      exact ⟨(orderly.within j).command, (orderly.within j).going⟩

/-- A turn of command `j` is not seen by another one, unless it releases a payload that the other has too. -/
theorem Orderly.unseen (orderly : company.Orderly e requests) (apart : e.TellsApart requests) (other : j ≠ i)
    (shared : ∀ p q, (requests i).payload = some p → (requests j).payload = some q → p.id = q.id →
      p.payload.Steady ∧ ((company.turn e disk world j).members j).phase.isFinished = false) :
    Lives.Alike (e.Reaches i (requests i).payload) company.lives (company.turn e disk world j).lives := by
  have spares : (company.run j).Spares ((company.turn e disk world j).run j) := by
    rw [run_turn_same]
    exact e.spares_advance disk _ (company.run j)
  have confined := e.confined_advance disk (.refl _ (company.run j).lives) (orderly.within j)
    (e.fills_reaches j (requests j).payload) (company.told world j)
  intro p mine
  by_cases meets : ∃ q, e.Reaches j (requests j).payload q ∧ q.id = p.id
  · obtain ⟨q, theirs, same⟩ := meets
    have released : p.payload.Steady →
        (((company.turn e disk world j).members j).phase.isFinished = false ∨
          ∀ r, (requests j).payload = some r → r.id ≠ p.id) →
        p.payload.Alike (company.lives p.id) ((company.turn e disk world j).lives p.id) := by
      intro steady spared
      rw [← orderly.built j] at spared
      exact ⟨(spares.released p.id spared).symm, .inl steady⟩
    rcases apart.meet other mine theirs same with ⟨built, alsoBuilt⟩ | ⟨steady, unbuilt⟩
    · obtain ⟨steady, runs⟩ := shared p q built alsoBuilt same.symm
      exact released steady (.inl runs)
    · exact released steady (.inr unbuilt)
  · have untouched : (company.turn e disk world j).lives p.id = company.lives p.id :=
      confined.frame p.id fun q theirs same => meets ⟨q, theirs, same⟩
    rw [untouched]
    exact .refl _ _

/-- A turn of another command. -/
theorem Alongside.other (along : Alongside e requests i company alone) (orderly : company.Orderly e requests)
    (apart : e.TellsApart requests) (other : j ≠ i)
    (shared : ∀ p q, (requests i).payload = some p → (requests j).payload = some q → p.id = q.id →
      p.payload.Steady ∧ (((company.turn e disk world j).members j).phase.isFinished = true →
        ((company.turn e disk world j).members i).phase.isFinished = true)) :
    Alongside e requests i (company.turn e disk world j) alone := by
  have stays : (company.turn e disk world j).members i = company.members i :=
    members_turn_other company other.symm
  refine ⟨stays.trans along.member, fun runs => ?_⟩
  have unseen : Lives.Alike (e.Reaches i (requests i).payload) company.lives
      (company.turn e disk world j).lives := by
    refine orderly.unseen apart other fun p q mine theirs same => ?_
    obtain ⟨steady, ends⟩ := shared p q mine theirs same
    refine ⟨steady, Bool.eq_false_iff.mpr fun ended => ?_⟩
    rw [ends ended] at runs
    cases runs
  rw [stays] at runs
  exact unseen.symm.trans (along.alike runs)

/-- A turn of the command itself, in company and alone. -/
theorem Alongside.own (along : Alongside e requests i company alone) (orderly : company.Orderly e requests) :
    Alongside e requests i (company.turn e disk world i) (alone.turn e disk world i) := by
  have told : alone.told world i = company.told world i := by
    unfold Company.told
    rw [along.member]
  have twin : alone.run i = (company.run i).among alone.lives := by
    unfold run Run.among
    rw [along.member]
  obtain ⟨output, command, phase, alike⟩ := e.advance_among disk along.alike (orderly.within i)
    (e.fills_reaches i (requests i).payload) (company.told world i)
  rw [← twin] at output command phase alike
  constructor
  · rw [members_turn_same, members_turn_same, told, ← along.member, output, command, phase]
  · intro runs
    rw [members_turn_same] at runs
    show Lives.Alike _ _ (e.advance disk (alone.told world i) (alone.run i)).value.lives
    rw [told]
    exact alike runs

/-- A command that has all turns to itself is executed: after its first turn it is told something at each. -/
theorem play_alone (e : Executor) (disk : Disk) (world : World) (requests : Nat → Request)
    (retrySafe cancelled : Nat → Bool) (lives : Lives) (i turns : Nat) :
    let reached := (gathered requests retrySafe cancelled lives).play e disk world (List.replicate (turns + 1) i)
    ∃ signals, signals.length = turns ∧
      let run := e.execution disk (.built i (requests i) (retrySafe i) (cancelled i)) lives signals
      reached.run i = run.value ∧ (reached.members i).history = run.output := by
  induction turns with
  | zero =>
    refine ⟨[], rfl, ?_⟩
    rw [Executor.execution_nil]
    exact ⟨run_turn_same _ i, congrArg Member.history (members_turn_same _ i)⟩
  | succ turns ih =>
    obtain ⟨signals, length, stands, told⟩ := ih
    rw [List.replicate_succ', play_concat]
    generalize (gathered requests retrySafe cancelled lives).play e disk world (List.replicate (turns + 1) i) =
      before at stands told
    have begun : (before.run i).phase ≠ .idle := by
      rw [stands]
      exact (Executor.execution_bounded signals).begun
    have steps := e.advance_of_begun disk (before.told world i) begun
    refine ⟨signals ++ [before.told world i], by rw [List.length_append, length]; rfl, ?_, ?_⟩
    · rw [run_turn_same, Executor.execution_concat, Writer.value_bind, ← stands, ← steps]
    · rw [members_turn_same, Executor.execution_concat, Writer.output_bind, ← stands, ← steps, ← told]

/-- Commands do not interfere. Whatever the executor, the files, what the world tells each command and the order of
the turns: after all turns a command stands, with all it did until then, where its own turns alone would have led
it. Others may have the same payload object only if it is steady, and none of them may end before the command does,
since the first to end lets go of the payload. -/
theorem commands_do_not_interfere (e : Executor) (disk : Disk) (world : World) (requests : Nat → Request)
    (retrySafe cancelled : Nat → Bool) (lives : Lives) (schedule : List Nat) (i : Nat)
    (apart : e.TellsApart requests)
    (shared : ∀ j, j ≠ i → ∀ p q, (requests i).payload = some p → (requests j).payload = some q → p.id = q.id →
      p.payload.Steady ∧ ∀ turns, turns <+: schedule →
        let reached := (gathered requests retrySafe cancelled lives).play e disk world turns
        (reached.members j).phase.isFinished = true → (reached.members i).phase.isFinished = true) :
    let company := gathered requests retrySafe cancelled lives
    (company.play e disk world schedule).members i =
      (company.play e disk world (schedule.filter (· = i))).members i := by
  intro company
  suffices along : (company.play e disk world schedule).Orderly e requests ∧
      Alongside e requests i (company.play e disk world schedule)
        (company.play e disk world (schedule.filter (· = i))) from along.2.member
  induction schedule using List.reverseRecOn with
  | nil => exact ⟨orderly_gathered e requests retrySafe cancelled lives, rfl, fun _ => .refl _ _⟩
  | append_singleton schedule k ih =>
    obtain ⟨orderly, along⟩ := ih fun j other p q mine theirs same =>
      (shared j other p q mine theirs same).imp_right fun ends turns begins =>
        ends turns (begins.trans (List.prefix_append _ _))
    rw [List.filter_append, play_concat]
    refine ⟨orderly.turn k, ?_⟩
    by_cases own : k = i
    · subst own
      rw [show [k].filter (· = k) = [k] from List.filter_cons_of_pos (decide_eq_true rfl), play_concat]
      exact along.own orderly
    · rw [show [k].filter (· = i) = [] from List.filter_cons_of_neg (by simpa using own), List.append_nil]
      refine along.other orderly apart own fun p q mine theirs same => ?_
      obtain ⟨steady, ends⟩ := shared k own p q mine theirs same
      refine ⟨steady, ?_⟩
      rw [← play_concat]
      exact ends _ (List.prefix_refl _)

/-- Of two commands with one request, the one that is still on its way when the other ends has lost the payload;
alone it would have been answered. -/
theorem clone_ends_for_want_of_payload :
    let home : Url := ⟨"http", some { host := "h" }, .rooted ["r"], none, none⟩
    let body : SharedPayload := ⟨.given 0, .ofText "body"⟩
    let upload : Request := ⟨.put, home, [], some body, []⟩
    let rules := ({} : Config).described
    let world : World := fun _ _ _ => .answered (.ok { status := 200 }) 1 false
    let clones := gathered (fun _ => upload) (fun _ => false) (fun _ => false) .fresh
    ((clones.play rules {} world [0, 0, 1, 1]).members 1).phase = .finished (.error (.payload .released)) ∧
      ∃ response, response.status = 200 ∧
        ((clones.play rules {} world ([0, 0, 1, 1].filter (· = 1))).members 1).phase =
          .finished (.ok response) := ⟨rfl, _, rfl, rfl⟩

/-- Of two commands with one request and their turns mixed, the one that ends first ends as it would alone. -/
theorem first_clone_undisturbed :
    let home : Url := ⟨"http", some { host := "h" }, .rooted ["r"], none, none⟩
    let body : SharedPayload := ⟨.given 0, .ofText "body"⟩
    let upload : Request := ⟨.put, home, [], some body, []⟩
    let rules := ({} : Config).described
    let world : World := fun _ _ _ => .answered (.ok { status := 200 }) 1 false
    let requests : Nat → Request := fun i => if i < 2 then upload else { endpoint := home }
    let clones := gathered requests (fun _ => false) (fun _ => false) .fresh
    rules.TellsApart requests ∧ body.payload.Steady ∧
      (clones.play rules {} world [0, 1, 0, 1]).members 0 = (clones.play rules {} world [0, 0]).members 0 ∧
      ∃ response, response.status = 200 ∧
        ((clones.play rules {} world [0, 1, 0, 1]).members 0).phase = .finished (.ok response) := by
  intro home body upload rules world requests clones
  have given : ∀ i p, (requests i).payload = some p → p = body ∧ i < 2 := by
    intro i p full
    by_cases few : i < 2
    · simp only [requests, few, ↓reduceIte, upload, Option.some.injEq] at full
      exact ⟨full.symm, few⟩
    · simp only [requests, few, ↓reduceIte] at full
      cases full
  have unlent : ∀ p, ¬ rules.Lends p := by
    rintro p ⟨filter, belongs, -⟩
    cases belongs
  have apart : rules.TellsApart requests :=
    ⟨fun i p full => ⟨0, (given i p full).1 ▸ rfl⟩, fun p lent => absurd lent (unlent p),
      fun p lent => absurd lent (unlent p), fun p lent => absurd lent (unlent p)⟩
  have steady : body.payload.Steady := body.payload.steady_iff.mpr trivial
  have first : ∀ turns ∈ [0, 1, 0, 1].inits,
      ((clones.play rules {} world turns).members 1).phase.isFinished = true →
        ((clones.play rules {} world turns).members 0).phase.isFinished = true := by decide +kernel
  refine ⟨apart, steady, ?_, _, rfl, rfl⟩
  refine commands_do_not_interfere rules {} world requests _ _ .fresh [0, 1, 0, 1] 0 apart ?_
  intro j other p q mine theirs same
  obtain ⟨rfl, few⟩ := given j q theirs
  obtain rfl : j = 1 := by omega
  obtain ⟨rfl, -⟩ := given 0 p mine
  exact ⟨steady, fun turns begins => first turns ((List.mem_inits _ _).mpr begins)⟩

end Company

end Courier
