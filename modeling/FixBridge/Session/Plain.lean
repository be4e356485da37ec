import FixBridge.Session.Process

/-! A plain environment, in which frames end with their checksum and nothing goes wrong. -/

namespace FixBridge

namespace Plain

/-- The separator of the fields of a message. -/
def soh : UInt8 := 1

/-- Whether a text starts with a checksum field, together with the separator before it. -/
def checksum : List UInt8 → Bool
  | a :: b :: c :: d :: _ :: _ :: _ :: h :: _ => a = soh ∧ b = 49 ∧ c = 48 ∧ d = 61 ∧ h = soh
  | _ => false

/-- The length up to the end of the first checksum field. -/
def frame : List UInt8 → Option Nat
  | [] => none
  | first :: rest =>
    if checksum (first :: rest) then some 8 else (frame rest).map (· + 1)

/-- A checksum field is eight bytes long and is decided by them. -/
theorem checksum_eight {text : List UInt8} (ends : checksum text = true) :
    8 ≤ text.length ∧ ∀ rest, checksum (text.take 8 ++ rest) = true := by
  -- Only the first eight bytes are inspected.
  match text, ends with
  | a :: b :: c :: d :: e :: f :: g :: h :: tail, ends =>
    exact ⟨by simp, fun rest => by simpa [checksum] using ends⟩

/-- Cutting a text behind a byte that starts no checksum field makes it start none. -/
theorem checksum_take {text : List UInt8} (other : checksum text = false) {length : Nat}
    (long : 8 ≤ length) (rest : List UInt8) (enough : length ≤ text.length) :
    checksum (text.take length ++ rest) = false := by
  match text, other with
  | a :: b :: c :: d :: e :: f :: g :: h :: tail, other =>
    -- A cut behind eight bytes keeps all that is inspected.
    obtain ⟨more, rfl⟩ := Nat.exists_eq_add_of_le' long
    simpa [checksum] using other
  | [], _ | [_], _ | [_, _], _ | [_, _, _], _ | [_, _, _, _], _ | [_, _, _, _, _], _
  | [_, _, _, _, _, _], _ | [_, _, _, _, _, _, _], _ =>
    -- A text of fewer than eight bytes cannot be cut behind the eighth.
    simp at enough
    omega

/-- A frame is at least as long as a checksum field and lies within the text. -/
theorem frame_bounds {text : List UInt8} {length : Nat} (found : frame text = some length) :
    8 ≤ length ∧ length ≤ text.length := by
  -- The checksum field starts here or further on.
  induction text generalizing length with
  | nil => cases found
  | cons first rest ih =>
    rw [frame] at found
    split at found
    · next ends =>
      cases found
      exact ⟨Nat.le_refl 8, (checksum_eight ends).1⟩
    · obtain ⟨shorter, located, rfl⟩ := Option.map_eq_some_iff.mp found
      have bounds := ih located
      simp only [List.length_cons]
      omega

/-- A frame is decided by its own bytes. -/
theorem frame_stable {text : List UInt8} {length : Nat} (found : frame text = some length)
    (tail : List UInt8) : frame (text.take length ++ tail) = some length := by
  induction text generalizing length with
  | nil => cases found
  | cons first rest ih =>
    have bounds := frame_bounds found
    -- What was found at this byte is found again in the cut text.
    rw [frame] at found
    split at found
    · next ends =>
      cases found
      have still := (checksum_eight ends).2 tail
      simp only [List.take_succ_cons, List.cons_append] at still ⊢
      rw [frame, if_pos still]
    · next other =>
      obtain ⟨shorter, located, rfl⟩ := Option.map_eq_some_iff.mp found
      -- The cut is behind the byte, so no checksum field appears there.
      have still := checksum_take (by simpa using other) bounds.1 tail bounds.2
      simp only [List.take_succ_cons, List.cons_append] at still ⊢
      rw [frame, still, ih located]
      simp

/-- Frames end with their checksum field. -/
def framer : Framer UInt8 where
  frame := frame
  positive found := Nat.lt_of_lt_of_le (by decide) (frame_bounds found).1
  bounded found := (frame_bounds found).2
  stable found := frame_stable found

/-- The fields of a frame. -/
def fields (bytes : List UInt8) : List (Nat × String) :=
  ((bytes.splitOn soh).filter (· ≠ [])).map fun field =>
    let tag := field.takeWhile (· ≠ 61)
    ((tag.foldl (fun value digit => 10 * value + (digit.toNat - 48)) 0),
      String.ofList ((field.drop (tag.length + 1)).map fun byte => Char.ofNat byte.toNat))

/-- The value of a field, which is empty when the field is missing. -/
def field (tag : Nat) (fields : List (Nat × String)) : String :=
  (fields.lookup tag).getD ""

/-- The number that a text spells, unless it spells none. -/
def number (text : String) : Option Nat :=
  if text ≠ "" ∧ text.toList.all Char.isDigit then
    some (text.toList.foldl (fun value digit => 10 * value + (digit.toNat - 48)) 0)
  else none

/-- The types of the messages that are decoded. -/
def msgType : String → MsgType
  | "A" => .logon
  | "0" => .heartbeat
  | "BE" => .userRequest
  | "D" => .newOrderSingle
  | value => .other value

/-- The message of a frame. -/
def decode (bytes : List UInt8) : Option Message := do
  let fields := fields bytes
  let msgSeqNum ← number (field 34 fields)
  return {
    header :=
      { version := if field 8 fields = "FIX.4.4" then .fix44 else .other (field 8 fields)
        msgType := msgType (field 35 fields)
        senderCompId := field 49 fields
        targetCompId := field 56 fields
        msgSeqNum := UInt64.ofNat msgSeqNum
        sendingTime := 0 }
    fields }

/-- The fields of a UserRequest. -/
def createUserRequest (message : Message) : Option UserRequest :=
  let userRequestType := match field 924 message.fields with
    | "1" => UserRequestType.logOnUser
    | "2" => .logOffUser
    | "3" => .changePasswordForUser
    | "4" => .requestIndividualUserStatus
    | _ => .unknown
  some
    { userRequestId := field 923 message.fields
      userRequestType
      username := field 553 message.fields }

/-- The strategy that a username names. -/
def fromChars (text : String) : Option StrategyId := do
  let value ← number text
  if value < 2 ^ 32 then some (UInt32.ofNat value) else none

end Plain

/-- Options under which routing is by strategy and orders are cancelled on disconnect. -/
def Settings.plain : Settings where
  cancelOnDisconnect := true
  omsRouteByStrategy := true
  fixCompId := "BRIDGE"

/-- A user with a strategy, and without an account as routing by strategy requires. -/
def alice : User where
  userId := 1
  component := "CLIENT"
  username := "alice"
  password := "secret"
  strategyId := 7
  account := ""
  accountsRegex := []
  symbolsRegex := []

/-- The bridge makes no calls by itself, and the io layer does what it is asked to. -/
def Environment.plain : Environment where
  settings := .plain
  users := (∅ : Table String User).insert "alice" alice
  framer := Plain.framer
  decode := Plain.decode
  creates := fun _ => true
  createUserRequest := Plain.createUserRequest
  fromChars := Plain.fromChars
  realtime := fun _ => 0
  accepts := fun _ _ => true
  closeReenters := fun _ _ => false
  notConnected := fun _ _ => false
  order := fun _ => []
  onConnected := fun _ => []
  onMessage := fun _ => { callbacks := [], throws := false }
  onDisconnected := fun _ => []

/-- The same user with an account, for routing by account. -/
def accountedAlice : User := { alice with strategyId := 0, account := "A1" }

/-- The same process when routing is by account, as it is for cancelling orders. -/
def Environment.byAccount : Environment :=
  { Environment.plain with
    settings := { Settings.plain with omsRouteByStrategy := false }
    users := (∅ : Table String User).insert "alice" accountedAlice }

/-- The bytes of a message whose fields are separated as documents print them. -/
def bytesOf (text : String) : List UInt8 :=
  text.toList.map fun char => if char = '|' then Plain.soh else char.toNat.toUInt8

/-- A UserRequest that logs on for strategy 7. -/
def logOn : List UInt8 := bytesOf <|
  "8=FIX.4.4|9=0000074|35=BE|49=CLIENT|56=BRIDGE|34=1|52=19700101-00:00:00.000|" ++
  "923=1|924=1|553=7|10=154|"

/-- A Logon of the user alice. -/
def logon : List UInt8 := bytesOf <|
  "8=FIX.4.4|9=0000077|35=A|49=CLIENT|56=BRIDGE|34=1|52=19700101-00:00:00.000|" ++
  "98=0|108=30|553=alice|10=028|"

end FixBridge
