import Courier.Config.Basic
import Courier.Json.Value

/-!
Reading a configuration from JSON: an object with options by their names, or a list with the options in
order. The text is taken as it comes, so the first fault in it is the one reported, be it a fault of JSON
or an option that is unknown, repeated or of the wrong type.
-/
namespace Courier.Config

open Json

inductive ReadError where
  | json (trouble : Trouble)
  | outOfRange (error : OutOfRange)
  deriving DecidableEq, Repr

abbrev Read (α : Type) := Cursor → Except Trouble (α × Cursor)

/-- The value at the cursor is not what is wanted. A word, number or string is read to its end first, and
a fault in it counts more. -/
def refuse {α : Type} (c : Cursor) : Except Trouble α :=
  match c.peek with
  | some 0x6e => do (← readWord [0x75, 0x6c, 0x6c] c.skip).fail .unwanted
  | some 0x74 => do (← readWord [0x72, 0x75, 0x65] c.skip).fail .unwanted
  | some 0x66 => do (← readWord [0x61, 0x6c, 0x73, 0x65] c.skip).fail .unwanted
  | some 0x22 => do (← readQuoted c).2.fail .unwanted
  | some 0x2d => do (← readNumber true c.skip).2.fail .unwanted
  | some 0x5b | some 0x7b => c.fail .unwanted
  | some b =>
    if 0x30 ≤ b && b ≤ 0x39 then do (← readNumber false c).2.fail .unwanted
    else c.failNext .expectedValue
  | none => c.failNext .expectedValue

/-- Past the blanks, where a value must begin. -/
def atValue (c : Cursor) : Except Trouble Cursor :=
  let c := c.skipBlanks
  if c.peek.isNone then c.failNext .endInValue else .ok c

def natural (bound : Nat) : Read Nat := fun c => do
  let c ← atValue c
  let accept (number : Number × Cursor) : Except Trouble (Nat × Cursor) :=
    match number with
    | (.natural n, c) => if n < bound then .ok (n, c) else c.fail .unwanted
    | (_, c) => c.fail .unwanted
  match c.peek with
  | some 0x2d => do accept (← readNumber true c.skip)
  | some b => if 0x30 ≤ b && b ≤ 0x39 then do accept (← readNumber false c) else refuse c
  | none => refuse c

def string : Read String := fun c => do
  let c ← atValue c
  if c.peek = some 0x22 then readQuoted c else refuse c

def listOf {α : Type} (item : Read α) : Read (List α) := fun c => do
  let c ← atValue c
  if c.peek = some 0x5b then readItems item c.rest.length [] c.skip else refuse c

def algorithmName : Read DigestAlgorithm := fun c => do
  let (name, c) ← string c
  match DigestAlgorithm.ofName? name with
  | some algorithm => pure (algorithm, c)
  | none => c.fail .unwanted

def nothing : Read Unit := fun c => do
  let c ← atValue c
  if c.peek = some 0x6e then pure ((), ← readWord [0x75, 0x6c, 0x6c] c.skip) else refuse c

/-- Reads a digest algorithm: its name, or an object with its name and nothing. -/
def algorithm : Read DigestAlgorithm := fun c => do
  let c ← atValue c
  match c.peek with
  | some 0x22 => algorithmName c
  | some 0x7b => do
    let (algorithm, c) ← algorithmName c.skip
    let c ← readColon c
    let (_, c) ← nothing c
    let c := c.skipBlanks
    match c.peek with
    | some 0x7d => pure (algorithm, c.skip)
    | some _ => c.fail .expectedValue
    | none => c.fail .endInObject
  | _ => c.failNext .expectedValue

def optionalAlgorithm : Read (Option DigestAlgorithm) := fun c => do
  let c := c.skipBlanks
  if c.peek = some 0x6e then pure (none, ← readWord [0x75, 0x6c, 0x6c] c.skip)
  else do
    let (algorithm, c) ← algorithm c
    pure (some algorithm, c)

/-- An option by its name, and how its value is read into a configuration. -/
structure Setting where
  name : String
  read : Config → Read Config

/-- Reads a value and puts it into a configuration. -/
def set {α : Type} (value : Read α) (put : Config → α → Config) (config : Config) : Read Config :=
  fun c => do
    let (x, c) ← value c
    pure (put config x, c)

/-- The options in their order. -/
def options : List Setting :=
  [⟨"retryable_server_codes",
      set (listOf string) fun config x => { config with retryableServerCodes := x }⟩,
   ⟨"retryable_statuses",
      set (listOf (natural UInt16.size)) fun config x => { config with retryableStatuses := x }⟩,
   ⟨"max_retries", set (natural UInt32.size) fun config x => { config with maxRetries := x }⟩,
   ⟨"base_period_ms",
      set (natural UInt64.size) fun config x => { config with basePeriodMillis := UInt64.ofNat x }⟩,
   ⟨"max_period_ms",
      set (natural UInt64.size) fun config x => { config with maxPeriodMillis := UInt64.ofNat x }⟩,
   ⟨"max_redirects", set (natural UInt32.size) fun config x => { config with maxRedirects := x }⟩,
   ⟨"max_error_body_bytes",
      set (natural UInt64.size) fun config x => { config with maxErrorBodyBytes := x }⟩,
   ⟨"upload_digest",
      set optionalAlgorithm fun config x => { config with uploadDigest := x }⟩,
   ⟨"connect_timeout_secs",
      set (natural UInt64.size) fun config x =>
        { config with connectTimeoutSeconds := UInt64.ofNat x }⟩,
   ⟨"read_timeout_secs",
      set (natural UInt64.size) fun config x =>
        { config with readTimeoutSeconds := UInt64.ofNat x }⟩]

/-- Reads the members of an object; `seen` holds the names so far, and `fuel` is more than the bytes
left. -/
def readObject : Nat → List String → Config → Read Config
  | 0, _, config, c => .ok (config, c)
  | fuel + 1, seen, config, c => do
    match ← moreMembers seen.isEmpty c with
    | (false, c) => pure (config, c.skip)
    | (true, c) =>
      let (name, c) ← readQuoted c
      match options.find? (·.name == name) with
      | none => c.fail .unwanted
      | some option =>
        if seen.contains name then c.fail .unwanted
        let c ← readColon c
        let (config, c) ← option.read config c
        readObject fuel (name :: seen) config c

/-- Reads the items of a list, each as the next option. -/
def readList : (first : Bool) → List Setting → Config → Read Config
  | _, [], config, c =>
    let c := c.skipBlanks
    match c.peek with
    | some 0x5d => .ok (config, c.skip)
    | some 0x2c =>
      let c := c.skip.skipBlanks
      if c.peek = some 0x5d then c.failNext .trailingComma else c.failNext .trailingCharacters
    | some _ => c.failNext .trailingCharacters
    | none => c.failNext .endInList
  | first, option :: rest, config, c => do
    match ← moreItems first c with
    | (false, c) => pure (config, c.skip)
    | (true, c) =>
      let (config, c) ← option.read config c
      readList false rest config c

def readConfig : Read Config := fun c => do
  let c ← atValue c
  match c.peek with
  | some 0x5b => readList true options {} c.skip
  | some 0x7b => readObject c.rest.length [] {} c.skip
  | _ => refuse c

/-- The configuration that a text stands for, with every option in its range. -/
def ofJson (text : String) : Except ReadError Config :=
  let outcome : Except Trouble Config := do
    let (config, c) ← readConfig ⟨Text.utf8 text, 0⟩
    expectEnd c
    pure config
  match outcome with
  | .error trouble => .error (.json trouble)
  | .ok config =>
    match config.validate with
    | .error e => .error (.outOfRange e)
    | .ok () => .ok config

end Courier.Config
