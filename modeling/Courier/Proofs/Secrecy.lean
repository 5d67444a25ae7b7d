import Courier.Proofs.Blindness
import Courier.Proofs.Destination
import Courier.Proofs.Writing
import Mathlib.Data.List.Forall2

/-!
Credentials are kept secret. Two runs of a command that differ at most in passwords and in values of headers that carry
credentials are the same under the veil (`Executor.veiled_execution_of_alike`), and runs that are the same under
the veil are told apart by nothing that is shown of them (`LookAlike.of_veiled`): not by a notice, a result, a
description or a header list, be it of a request or of what is written of it on the wire.
-/
namespace Courier

/-- The requests look the same: in their descriptions, and in their headers as logs show them, also those of what is
written of them on the wire. -/
structure Request.LooksLike (request other : Request) : Prop where
  description : ∀ lives, request.describe lives = other.describe lives
  headers : request.headers.shown = other.headers.shown
  written : ∀ line ∈ Wire.write? request, ∀ line' ∈ Wire.write? other,
    line.headers.shown = line'.headers.shown

theorem Request.LooksLike.of_veiled {request other : Request} (same : request.veiled = other.veiled) :
    request.LooksLike other where
  description lives := by rw [← request.describe_veiled, same, other.describe_veiled]
  headers := Headers.shown_eq_of_veiled (congrArg Request.headers same :)
  written _ writes _ writes' :=
    Headers.shown_eq_of_veiled (Wire.veiled_headers_of_write? same writes writes')

/-- All that is shown of a result: the status and the description of a response, or what is said of an error, the
texts of the errors behind it and its description. -/
def Outcome.shown (foreign : Cause → String) : Outcome → Except (String × List String × String) (Nat × String)
  | .ok response => .ok (response.status, response.describe)
  | .error error => .error (error.message, error.causes, error.describe foreign)

@[simp] theorem Outcome.shown_veiled (outcome : Outcome) (foreign : Cause → String) :
    Outcome.shown foreign (Outcome.veiled outcome) = Outcome.shown foreign outcome := by
  cases outcome with
  | ok response => simp [veiled, shown, show response.veiled.status = response.status from rfl]
  | error error => simp [veiled, shown]

/-- The result of a run that has come to its end. -/
def Phase.outcome? : Phase → Option Outcome
  | finished outcome => some outcome
  | _ => none

/-- The runs look the same: in the notices they gave, in their results, in the descriptions of their commands and in
all their requests, those that were handed over, the one on its way and the one of the command. -/
structure LookAlike (run other : Traced Run) : Prop where
  notices : run.output.filterMap Event.notice? = other.output.filterMap Event.notice?
  result : ∀ foreign, run.value.phase.outcome?.map (Outcome.shown foreign) =
    other.value.phase.outcome?.map (Outcome.shown foreign)
  command : run.value.command.describe run.value.lives = other.value.command.describe other.value.lives
  handed : List.Forall₂ Request.LooksLike (run.output.filterMap Event.request?)
    (other.output.filterMap Event.request?)
  onward : Option.Rel Request.LooksLike run.value.phase.request? other.value.phase.request?
  base : run.value.command.request.LooksLike other.value.command.request

/-- Requests that are the same under the veil, one by one. -/
theorem Request.forall₂_looksLike {requests others : List Request}
    (same : requests.map Request.veiled = others.map Request.veiled) :
    List.Forall₂ Request.LooksLike requests others := by
  have rows : List.Forall₂ (· = ·) (requests.map Request.veiled) (others.map Request.veiled) := by
    rw [same]
    exact List.forall₂_refl _
  exact (List.forall₂_map_left_iff.mp (List.forall₂_map_right_iff.mp rows)).imp fun _ _ => .of_veiled

theorem Request.rel_looksLike {request other : Option Request}
    (same : request.map Request.veiled = other.map Request.veiled) :
    Option.Rel Request.LooksLike request other := by
  cases request with
  | none =>
    cases Option.map_eq_none_iff.mp same.symm
    exact .none
  | some request =>
    obtain ⟨_, rfl, veiled⟩ := Option.map_eq_some_iff.mp same.symm
    exact .some (.of_veiled veiled.symm)

theorem Event.notice?_veiled (event : Event) : event.veiled.notice? = event.notice? := by
  cases event <;> rfl

theorem Event.request?_veiled (event : Event) :
    event.veiled.request? = event.request?.map Request.veiled := by
  cases event <;> rfl

theorem Phase.outcome?_veiled (phase : Phase) :
    phase.veiled.outcome? = phase.outcome?.map Outcome.veiled := by
  cases phase <;> rfl

theorem Phase.request?_veiled (phase : Phase) :
    phase.veiled.request? = phase.request?.map Request.veiled := by
  cases phase <;> rfl

/-- A view that shows of each run what it shows of the veiled one tells no runs apart that are the same under the veil. -/
theorem view_eq_of_veiled {β : Type} (view : Traced Run → β) (seen : ∀ x, view x.veiled = view x)
    {run other : Traced Run} (same : run.veiled = other.veiled) : view run = view other := by
  rw [← seen run, same, seen other]

/-- What is the same under the veil looks the same. -/
theorem LookAlike.of_veiled {run other : Traced Run} (same : run.veiled = other.veiled) :
    LookAlike run other where
  notices := by
    refine view_eq_of_veiled (fun x => x.output.filterMap Event.notice?) (fun x => ?_) same
    simp only [Writer.veiled, List.filterMap_map, Function.comp_def, Event.notice?_veiled]
  result foreign := by
    refine view_eq_of_veiled (fun x => x.value.phase.outcome?.map (Outcome.shown foreign)) (fun x => ?_) same
    show x.value.phase.veiled.outcome?.map _ = _
    simp only [Phase.outcome?_veiled, Option.map_map, Function.comp_def, Outcome.shown_veiled]
  command := view_eq_of_veiled (fun x => x.value.command.describe x.value.lives)
    (fun x => x.value.command.describe_veiled x.value.lives) same
  handed := by
    refine Request.forall₂_looksLike (view_eq_of_veiled
      (fun x => (x.output.filterMap Event.request?).map Request.veiled) (fun x => ?_) same)
    simp only [Writer.veiled, List.filterMap_map, List.map_filterMap, Function.comp_def,
      Event.request?_veiled, Option.map_map, Request.veiled_veiled]
  onward := by
    refine Request.rel_looksLike (view_eq_of_veiled
      (fun x => x.value.phase.request?.map Request.veiled) (fun x => ?_) same)
    show x.value.phase.veiled.request?.map _ = _
    simp only [Phase.request?_veiled, Option.map_map, Function.comp_def, Request.veiled_veiled]
  base := .of_veiled (congrArg (fun x : Traced Run => x.value.command.request) same)

namespace Filter

/-- The filters differ at most in credentials: in a password, or in values of headers that carry credentials. -/
inductive Alike : Filter → Filter → Prop
  | basicAuth (user : String) {password other : String} (given : password ≠ "") (given' : other ≠ "") :
    Alike (basicAuth user password) (basicAuth user other)
  | setHeaders (id : String) {headers others : Headers} (same : headers.veiled = others.veiled) :
    Alike (setHeaders id headers) (setHeaders id others)

end Filter

/-- A line put in the place of those of its name is under the veil what the line and the request are. -/
theorem Request.veiled_withReplacedHeader {request other : Request} (same : request.veiled = other.veiled)
    {line line' : Header} (lines : line.veiled = line'.veiled) :
    (request.withReplacedHeader line.name line.value).veiled =
      (other.withReplacedHeader line'.name line'.value).veiled := by
  obtain ⟨method, endpoint, headers, payload, applied⟩ := request
  obtain ⟨_, _, headers', _, _⟩ := other
  simp only [veiled, mk.injEq] at same
  obtain ⟨rfl, rfl, rows, rfl, rfl⟩ := same
  have replaced : (headers.replace line.name line.value).veiled =
      (headers'.replace line'.name line'.value).veiled := by
    have named : line.name = line'.name := (congrArg Header.name lines :)
    calc (headers.replace line.name line.value).veiled
        = headers.veiled.without line.name ++ [line.veiled] := headers.veiled_replace _ _
      _ = headers'.veiled.without line'.name ++ [line'.veiled] := by rw [rows, named, lines]
      _ = (headers'.replace line'.name line'.value).veiled := (headers'.veiled_replace _ _).symm
  exact congrArg (Request.mk method endpoint · payload applied) replaced

/-- Lines put in one after another. -/
theorem Request.veiled_replacedHeaders {lines lines' : Headers} (alike : lines.veiled = lines'.veiled)
    {request other : Request} (same : request.veiled = other.veiled) :
    (lines.foldl (fun request h => request.withReplacedHeader h.name h.value) request).veiled =
      (lines'.foldl (fun request h => request.withReplacedHeader h.name h.value) other).veiled := by
  induction lines generalizing lines' request other with
  | nil =>
    cases lines' with
    | nil => exact same
    | cons line' rest' => cases alike
  | cons line rest ih =>
    cases lines' with
    | nil => cases alike
    | cons line' rest' =>
      obtain ⟨first, rests⟩ := List.cons.inj alike
      exact ih rests (veiled_withReplacedHeader same first)

namespace Filter.Alike

variable {filter other : Filter}

/-- Filters that are alike make the same of requests that are the same under the veil. -/
theorem transform (alike : Alike filter other) (fresh : PayloadId) {request request' : Request}
    (same : request.veiled = request'.veiled) :
    filter.veiled.transform fresh request = other.veiled.transform fresh request' := by
  cases alike with
  | @basicAuth user password password' given given' =>
    have asked : (user.isEmpty || password.isEmpty) = (user.isEmpty || password'.isEmpty) := by
      rw [String.isEmpty_eq_false_iff.mpr given, String.isEmpty_eq_false_iff.mpr given']
    have closed : Header.isSensitive "Authorization" = true := by decide
    have credentials : Header.veiled ⟨"Authorization", basicCredentials user password⟩ =
        Header.veiled ⟨"Authorization", basicCredentials user password'⟩ :=
      Header.veiled_eq_iff.mpr ⟨rfl, fun open_ => absurd closed (Bool.eq_false_iff.mp open_)⟩
    simp only [Filter.veiled, Filter.basicAuth, asked]
    split
    · rfl
    · have replaced := Request.veiled_withReplacedHeader same credentials
      exact congrArg Except.ok replaced
  | setHeaders id lines => exact congrArg Except.ok (Request.veiled_replacedHeaders lines same)

theorem veiled (alike : Alike filter other) : filter.veiled = other.veiled := by
  have id : filter.id = other.id := by cases alike <;> rfl
  have makes : filter.veiled.transform = other.veiled.transform := by
    funext fresh request
    exact alike.transform fresh rfl
  show Filter.mk filter.id filter.veiled.transform = Filter.mk other.id other.veiled.transform
  rw [id, makes]

/-- Filters that are alike do not look under the veil. -/
theorem blind (alike : Alike filter other) : filter.Blind ∧ other.Blind := by
  constructor
  · intro fresh request
    rw [alike.transform fresh request.veiled_veiled, alike.veiled]
  · intro fresh request
    rw [← alike.transform fresh request.veiled_veiled.symm, alike.veiled]

end Filter.Alike

namespace FilterChain

variable {chain other : FilterChain}

theorem veiled_of_alike (alike : List.Forall₂ Filter.Alike chain other) :
    chain.veiled = other.veiled := by
  induction alike with
  | nil => rfl
  | cons first _ ih => exact congrArg₂ List.cons first.veiled ih

theorem blind_of_alike (alike : List.Forall₂ Filter.Alike chain other) :
    (∀ filter ∈ chain, filter.Blind) ∧ ∀ filter ∈ other, filter.Blind := by
  induction alike with
  | nil => exact ⟨List.forall_mem_nil _, List.forall_mem_nil _⟩
  | cons first _ ih =>
    exact ⟨List.forall_mem_cons.mpr ⟨first.blind.1, ih.1⟩, List.forall_mem_cons.mpr ⟨first.blind.2, ih.2⟩⟩

end FilterChain

namespace Executor

variable {e : Executor} {chain chain' : FilterChain} {request request' : Request}
  {signals signals' : List Signal}

/-- Executions that differ at most in credentials are the same under the veil. -/
theorem veiled_execution_of_alike (blind : e.retryPolicy.Blind)
    (filters : List.Forall₂ Filter.Alike chain chain') (requests : request.veiled = request'.veiled)
    (answers : signals.map Signal.veiled = signals'.map Signal.veiled) (disk : Disk) (number : Nat)
    (retrySafe cancelled : Bool) (lives : Lives) :
    ({ e with filters := chain }.execution disk (.built number request retrySafe cancelled) lives
        signals).veiled =
      ({ e with filters := chain' }.execution disk (.built number request' retrySafe cancelled) lives
        signals').veiled := by
  obtain ⟨clear, clear'⟩ := FilterChain.blind_of_alike filters
  have first : Blind { e with filters := chain } := ⟨clear, blind⟩
  have second : Blind { e with filters := chain' } := ⟨clear', blind⟩
  have rules : veiled { e with filters := chain } = veiled { e with filters := chain' } :=
    congrArg ({ e with filters := · }) (FilterChain.veiled_of_alike filters)
  have commands : (Command.built number request retrySafe cancelled).veiled =
      (Command.built number request' retrySafe cancelled).veiled := by
    have payload : request.payload = request'.payload := (congrArg Request.payload requests :)
    unfold Command.veiled Command.built Command.ofRequest
    rw [requests, payload]
  rw [veiled_execution disk first, veiled_execution disk second, rules, commands, answers]

/-- Credentials are never shown. Take a command and an executor whose policy looks at no credentials, and run it twice, with
filters that set basic credentials and headers: the passwords may differ as long as both are there, and so may values of
headers that carry credentials, whatever the letter case of their names, in the request, in the filters and in the
answers. If all else is the same, cancellations included, then the runs look the same after any signals. -/
theorem credentials_never_shown (blind : e.retryPolicy.Blind)
    (filters : List.Forall₂ Filter.Alike chain chain') (requests : request.veiled = request'.veiled)
    (answers : signals.map Signal.veiled = signals'.map Signal.veiled) (disk : Disk) (number : Nat)
    (retrySafe cancelled : Bool) (lives : Lives) :
    LookAlike
      ({ e with filters := chain }.execution disk (.built number request retrySafe cancelled) lives signals)
      ({ e with filters := chain' }.execution disk (.built number request' retrySafe cancelled) lives
        signals') :=
  .of_veiled (veiled_execution_of_alike blind filters requests answers disk number retrySafe cancelled lives)

/-- A request with a token goes out with a password and a cookie; a late gateway, a redirect and a refusal set cookies of
their own. What is sent differs, and nothing shows it. -/
theorem password_and_cookies_never_shown :
    let request (token : String) : Request :=
      { endpoint := ⟨"https", some { host := "h" }, .rooted [""], none, none⟩
        headers := [⟨"X-Session-TOKEN", token⟩] }
    let chain (password cookie : String) : FilterChain :=
      [.basicAuth "user" password, .setHeaders "extra" [⟨"Accept", "*/*"⟩, ⟨"cOOkie", cookie⟩]]
    let answers (cookie : String) : List Signal :=
      [.answered (.ok { status := 504, headers := [⟨"Set-Cookie", cookie⟩] }) 0 false, .pauseOver false,
        .answered (.ok { status := 302, headers := [⟨"Location", "/x"⟩, ⟨"set-cookie", cookie⟩] }) 0 false,
        .answered (.ok { status := 403, headers := [⟨"SET-COOKIE", cookie⟩] }) 0 false]
    let rules := ({} : Config).described
    let run (token password cookie : String) : Traced Run :=
      { rules with filters := chain password cookie }.execution {} (.built 0 (request token) false false)
        .fresh (answers cookie)
    let first := run "t" "secret" "a=1"
    let second := run "u" "hidden" "b=2"
    LookAlike first second ∧ first.value.phase.isFinished = true ∧
      (first.output.filterMap Event.request?).length = 3 ∧
      ∀ request ∈ first.output.filterMap Event.request?,
        ∀ request' ∈ second.output.filterMap Event.request?, request.headers ≠ request'.headers := by
  intro request chain answers rules run first second
  have filters : List.Forall₂ Filter.Alike (chain "secret" "a=1") (chain "hidden" "b=2") :=
    .cons (.basicAuth "user" (by decide) (by decide)) (.cons (.setHeaders "extra" (by decide +kernel)) .nil)
  have blind : rules.retryPolicy.Blind := BackoffPolicy.blind _
  have alike := credentials_never_shown blind filters
    (show (request "t").veiled = (request "u").veiled from rfl)
    (show (answers "a=1").map Signal.veiled = (answers "b=2").map Signal.veiled from rfl) {} 0 false false .fresh
  refine ⟨alike, by decide +kernel, by decide +kernel, ?_⟩
  decide +kernel

end Executor

end Courier
