import EnumBindings.Json.Token
import EnumBindings.Limits

/-!
# Reading a JSON text

The tokens of a text drive a machine that keeps the lists and objects begun but not yet
closed. The machine stops at the first token that is not due; a broken token is reported
for its own fault only where a whole token of its kind would have been accepted. It also
stops where more lists and objects would be open than the run allows.
-/

namespace EnumBindings

/-- A list or an object that is not yet closed, newest part first. -/
inductive Frame where
  | list (items : List Json)
  | object (fields : List (String × Json)) (key : String)

/-- What the machine is waiting for, within the containers that are open. -/
inductive Reading where
  /-- A value is due. -/
  | atValue (frames : List Frame)
  /-- A list has been opened. -/
  | atFirstItem (frames : List Frame)
  /-- An object has been opened. -/
  | atFirstKey (frames : List Frame)
  /-- Another field of an object is due. -/
  | atKey (fields : List (String × Json)) (frames : List Frame)
  /-- The colon behind a key is due. -/
  | atColon (fields : List (String × Json)) (key : String) (frames : List Frame)
  /-- A value is complete. -/
  | afterValue (value : Json) (frames : List Frame)

namespace Reading

/-- The fault of a text in which nothing acceptable follows. -/
def missing : Reading → JsonFault
  | .atValue _ => .value
  | .atFirstItem _ => .value
  | .atFirstKey _ => .propertyName
  | .atKey _ _ => .propertyName
  | .atColon _ _ _ => .colon
  | .afterValue _ [] => .extraData
  | .afterValue _ (_ :: _) => .comma

/-- The places where a quoted text is accepted. -/
def acceptsText : Reading → Bool
  | .atColon _ _ _ => false
  | .afterValue _ _ => false
  | _ => true

/-- The places where a value is accepted. -/
def acceptsValue : Reading → Bool
  | .atValue _ => true
  | .atFirstItem _ => true
  | _ => false

/-- The error for a token that cannot be taken. -/
def refuse (state : Reading) (offset : Nat) : Token → ReadError
  | .broken (.text fault ahead) =>
    if state.acceptsText then .malformed fault (offset + ahead)
    else .malformed state.missing offset
  | .broken (.longInteger digits) =>
    if state.acceptsValue then .longInteger digits else .malformed state.missing offset
  | _ => .malformed state.missing offset

/-- The first token of a value. -/
def begin? (frames : List Frame) : Token → Option Reading
  | .openList => some (.atFirstItem frames)
  | .openObject => some (.atFirstKey frames)
  | .quoted content => some (.afterValue (.text content) frames)
  | .plain value => some (.afterValue value frames)
  | _ => none

/-- Takes one token. -/
def step? : Reading → Token → Option Reading
  | .atValue frames, token => begin? frames token
  | .atFirstItem frames, .closeList => some (.afterValue (.list []) frames)
  | .atFirstItem frames, token => begin? (.list [] :: frames) token
  | .atFirstKey frames, .closeObject => some (.afterValue (.object []) frames)
  | .atFirstKey frames, .quoted key => some (.atColon [] key frames)
  | .atKey fields frames, .quoted key => some (.atColon fields key frames)
  | .atColon fields key frames, .colon => some (.atValue (.object fields key :: frames))
  | .afterValue value (.list items :: frames), .comma =>
    some (.atValue (.list (value :: items) :: frames))
  | .afterValue value (.list items :: frames), .closeList =>
    some (.afterValue (.list (value :: items).reverse) frames)
  | .afterValue value (.object fields key :: frames), .comma =>
    some (.atKey ((key, value) :: fields) frames)
  | .afterValue value (.object fields key :: frames), .closeObject =>
    some (.afterValue (.object ((key, value) :: fields).reverse) frames)
  | _, _ => none

/-- How many lists and objects are open. -/
def depth : Reading → Nat
  | .atValue frames => frames.length
  | .atFirstItem frames => frames.length + 1
  | .atFirstKey frames => frames.length + 1
  | .atKey _ frames => frames.length + 1
  | .atColon _ _ frames => frames.length + 1
  | .afterValue _ frames => frames.length

/-- Takes tokens until one is refused. The text ends at the given offset. -/
def run (limits : Limits) (stop : Nat) : Reading → List (Nat × Token) → Except ReadError Json
  | .afterValue value [], [] => .ok value
  | state, [] => .error (.malformed state.missing stop)
  | state, (offset, token) :: rest =>
    match state.step? token with
    | some next =>
      if limits.allowsDepth next.depth then run limits stop next rest
      else .error (.tooDeep token.container)
    | none => .error (state.refuse offset token)

section Run

variable {limits : Limits} {state next : Reading} {token : Token}

/-- A token that is due is taken, unless too much is open then. -/
theorem run_cons (hstep : state.step? token = some next) (stop offset : Nat)
    (rest : List (Nat × Token)) :
    run limits stop state ((offset, token) :: rest) =
      if limits.allowsDepth next.depth then run limits stop next rest
      else .error (.tooDeep token.container) := by
  rw [run, hstep]

/-- Any other token is refused. -/
theorem run_cons_of_refused (hstep : state.step? token = none) (stop offset : Nat)
    (rest : List (Nat × Token)) :
    run limits stop state ((offset, token) :: rest) = .error (state.refuse offset token) := by
  rw [run, hstep]

/-- Without limits every token that is due is taken. -/
theorem run_cons_unlimited (hstep : state.step? token = some next) (stop offset : Nat)
    (rest : List (Nat × Token)) :
    run {} stop state ((offset, token) :: rest) = run {} stop next rest := by
  rw [run_cons hstep, if_pos (Limits.allowsDepth_unlimited _)]

end Run

end Reading

/-- Reads the one value of a text. A byte order mark is no white space. -/
def Json.read (text : List Char) (limits : Limits := {}) : Except ReadError Json :=
  if text.head? = some '\uFEFF' then .error (.malformed .byteOrderMark 0)
  else Reading.run limits text.length (.atValue []) (Token.scan 0 0 text)

end EnumBindings
