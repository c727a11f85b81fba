import ArtForgeStudio.VideoPlayer.Ranges
import Mathlib.Data.List.Infix

/-! # Requests of the video player

The player reads its page and its video from a local port. A request is read byte by byte up to its
first blank line, and what it is answered with depends on nothing but that text: its first line, the
fields under it, and for a video the range it asks for.
-/

namespace ArtForgeStudio.VideoPlayer

open ArtForgeStudio.Api ArtForgeStudio.Outcome

inductive ReadAnswer where
  | closed
  | byte (b : UInt8)
  | waiting
  | failed

/-- One turn of the loop of `read_video_request`; behind the last turn the deadline has passed. -/
structure ReadTurn where
  cancelled : Bool
  answer : ReadAnswer

def videoRequestHeaderLimit : Nat := 8 * 1024

def blankLine : List UInt8 := [13, 10, 13, 10]

def isAscii (bytes : List UInt8) : Bool := bytes.all (· < 128)

/-- `String::from_utf8` of ASCII bytes -/
def asciiText (bytes : List UInt8) : List Char := bytes.map fun b => Char.ofNat b.toNat

def readVideoRequest (headers : List UInt8) :
    List ReadTurn → Except String (List UInt8) × List ReadTurn
  | [] => (.error "player request headers exceeded bounds", [])
  | turn :: turns =>
    if videoRequestHeaderLimit ≤ headers.length then
      (.error "player request headers exceeded bounds", turn :: turns)
    else if turn.cancelled then (.error "player request cancelled", turns)
    else
      match turn.answer with
      | .closed => (.error "incomplete player request", turns)
      | .failed => (.error "read failed", turns)
      | .waiting => readVideoRequest headers turns
      | .byte b =>
        let headers := headers ++ [b]
        if blankLine <:+ headers then
          if isAscii headers then (.ok headers, turns) else (.error "invalid player headers", turns)
        else readVideoRequest headers turns

/-- The bytes that turns without a fault bring. -/
inductive Arrives : List ReadTurn → List UInt8 → Prop where
  | nil : Arrives [] []
  | waiting {turns : List ReadTurn} {bytes : List UInt8} (h : Arrives turns bytes) :
    Arrives (⟨false, .waiting⟩ :: turns) bytes
  | byte {turns : List ReadTurn} {bytes : List UInt8} (b : UInt8) (h : Arrives turns bytes) :
    Arrives (⟨false, .byte b⟩ :: turns) (b :: bytes)

/-- It ends with its only blank line. -/
structure Received (request : List UInt8) : Prop where
  blank : blankLine <:+ request
  first : ∀ start, start <+: request → blankLine <:+ start → start = request
  ascii : isAscii request = true
  length : request.length ≤ videoRequestHeaderLimit

section Reading

variable {turns used rest : List ReadTurn} {headers bytes request : List UInt8}

/-- Bytes arrive in the first turn or in a later one. -/
theorem Arrives.cons_inv {turn : ReadTurn} (h : Arrives used bytes) (hbytes : bytes ≠ [])
    (hturns : turn :: turns = used ++ rest) :
    ∃ later, turns = later ++ rest ∧ (turn = ⟨false, .waiting⟩ ∧ Arrives later bytes ∨
      ∃ b more, turn = ⟨false, .byte b⟩ ∧ bytes = b :: more ∧ Arrives later more) := by
  cases h with
  | nil => exact absurd rfl hbytes
  | waiting hlater =>
    obtain ⟨rfl, hrest⟩ := List.cons_eq_cons.mp hturns
    exact ⟨_, hrest, .inl ⟨rfl, hlater⟩⟩
  | byte b hlater =>
    obtain ⟨rfl, hrest⟩ := List.cons_eq_cons.mp hturns
    exact ⟨_, hrest, .inr ⟨b, _, rfl, rfl, hlater⟩⟩

/-- A beginning of the bytes with one more byte is a beginning of the bytes or all of them. -/
theorem not_blank_concat {b : UInt8} (hheaders : ∀ start, start <+: headers → ¬blankLine <:+ start)
    (hblank : ¬blankLine <:+ headers ++ [b]) :
    ∀ start, start <+: headers ++ [b] → ¬blankLine <:+ start := by
  intro start hstart
  rcases List.prefix_concat_iff.mp hstart with rfl | hbefore
  · exact hblank
  · exact hheaders start hbefore

theorem Received.ne_nil (hheaders : ∀ start, start <+: headers → ¬blankLine <:+ start)
    (h : Received (headers ++ bytes)) : bytes ≠ [] := by
  rintro rfl
  rw [List.append_nil] at h
  exact hheaders headers List.prefix_rfl h.blank

/-- The turns bring what the request lacks. -/
def Brings (headers : List UInt8) (turns : List ReadTurn) (request : List UInt8) : Prop :=
  ∃ used rest bytes, turns = used ++ rest ∧ Arrives used bytes ∧ request = headers ++ bytes ∧
    Received request

theorem not_brings_nil (hheaders : ∀ start, start <+: headers → ¬blankLine <:+ start) :
    ¬Brings headers [] request := by
  rintro ⟨used, rest, bytes, hturns, harrives, rfl, hreceived⟩
  obtain ⟨rfl, -⟩ := List.append_eq_nil_iff.mp hturns.symm
  cases harrives
  exact hreceived.ne_nil hheaders rfl

theorem not_brings_fault (hheaders : ∀ start, start <+: headers → ¬blankLine <:+ start)
    {turn : ReadTurn} (hwaiting : turn ≠ ⟨false, .waiting⟩) (hbyte : ∀ b, turn ≠ ⟨false, .byte b⟩) :
    ¬Brings headers (turn :: turns) request := by
  rintro ⟨used, rest, bytes, hturns, harrives, rfl, hreceived⟩
  obtain ⟨-, -, ⟨hturn, -⟩ | ⟨b, _, hturn, -⟩⟩ :=
    harrives.cons_inv (hreceived.ne_nil hheaders) hturns
  · exact hwaiting hturn
  · exact hbyte b hturn

theorem brings_waiting_iff (hheaders : ∀ start, start <+: headers → ¬blankLine <:+ start) :
    Brings headers (⟨false, .waiting⟩ :: turns) request ↔ Brings headers turns request := by
  constructor
  · rintro ⟨used, rest, bytes, hturns, harrives, rfl, hreceived⟩
    obtain ⟨later, rfl, ⟨-, hlater⟩ | ⟨_, _, hturn, -⟩⟩ :=
      harrives.cons_inv (hreceived.ne_nil hheaders) hturns
    · exact ⟨later, rest, bytes, rfl, hlater, rfl, hreceived⟩
    · simp at hturn
  · rintro ⟨used, rest, bytes, rfl, harrives, hrequest⟩
    exact ⟨⟨false, .waiting⟩ :: used, rest, bytes, rfl, harrives.waiting, hrequest⟩

theorem brings_byte_iff (hheaders : ∀ start, start <+: headers → ¬blankLine <:+ start) (b : UInt8) :
    Brings headers (⟨false, .byte b⟩ :: turns) request ↔ Brings (headers ++ [b]) turns request := by
  have hsplit : ∀ more, headers ++ b :: more = (headers ++ [b]) ++ more := by simp
  constructor
  · rintro ⟨used, rest, bytes, hturns, harrives, rfl, hreceived⟩
    obtain ⟨later, rfl, ⟨hturn, -⟩ | ⟨_, more, hturn, rfl, hlater⟩⟩ :=
      harrives.cons_inv (hreceived.ne_nil hheaders) hturns
    · simp at hturn
    · obtain rfl := ReadAnswer.byte.inj (ReadTurn.mk.inj hturn).2
      exact ⟨later, rest, more, rfl, hlater, hsplit more, hreceived⟩
  · rintro ⟨used, rest, more, rfl, harrives, rfl, hreceived⟩
    exact ⟨⟨false, .byte b⟩ :: used, rest, b :: more, rfl, harrives.byte b,
      (hsplit more).symm, hreceived⟩

theorem Brings.length_lt (h : Brings headers turns request)
    (hheaders : ∀ start, start <+: headers → ¬blankLine <:+ start) :
    headers.length < videoRequestHeaderLimit := by
  obtain ⟨used, rest, bytes, -, -, rfl, hreceived⟩ := h
  have hpos := List.length_pos_of_ne_nil (hreceived.ne_nil hheaders)
  have hlength := hreceived.length
  rw [List.length_append] at hlength
  omega

/-- Behind a blank line nothing is missing. -/
theorem brings_blank_iff {b : UInt8}
    (hheaders : ∀ start, start <+: headers → ¬blankLine <:+ start)
    (hblank : blankLine <:+ headers ++ [b]) (hlimit : headers.length < videoRequestHeaderLimit) :
    Brings (headers ++ [b]) turns request ↔
      isAscii (headers ++ [b]) ∧ headers ++ [b] = request := by
  constructor
  · rintro ⟨used, rest, more, -, -, rfl, hreceived⟩
    have hall := hreceived.first _ (List.prefix_append _ more) hblank
    rw [← hall] at hreceived ⊢
    exact ⟨hreceived.ascii, rfl⟩
  · rintro ⟨hascii, rfl⟩
    refine ⟨[], turns, [], rfl, .nil, (List.append_nil _).symm, hblank, fun start hstart hend => ?_,
      hascii, ?_⟩
    · rcases List.prefix_concat_iff.mp hstart with h | hbefore
      · exact h
      · exact absurd hend (hheaders start hbefore)
    · rw [List.length_append, List.length_singleton]
      omega

/-- The bytes up to the first blank line, if there are no more than the limit and all are ASCII; the
turns behind it are not looked at. -/
theorem readVideoRequest_iff (hheaders : ∀ start, start <+: headers → ¬blankLine <:+ start) :
    (readVideoRequest headers turns).1 = .ok request ↔ Brings headers turns request := by
  induction turns generalizing headers with
  | nil => exact iff_of_false (by simp [readVideoRequest]) (not_brings_nil hheaders)
  | cons turn turns ih =>
    rw [readVideoRequest]
    split
    · rename_i hlimit
      exact iff_of_false (by simp) fun h => absurd (h.length_lt hheaders) (not_lt.mpr hlimit)
    rename_i hlimit
    obtain ⟨cancelled, answer⟩ := turn
    cases cancelled with
    | true => exact iff_of_false (by simp) (not_brings_fault hheaders (by simp) (by simp))
    | false =>
      rw [if_neg Bool.false_ne_true]
      cases answer with
      | closed | failed =>
        exact iff_of_false (by simp) (not_brings_fault hheaders (by simp) (by simp))
      | waiting => exact (ih hheaders).trans (brings_waiting_iff hheaders).symm
      | byte b =>
        dsimp only
        rw [brings_byte_iff hheaders b]
        split
        · rename_i hblank
          rw [brings_blank_iff hheaders hblank (not_le.mp hlimit)]
          split <;> simp_all
        · rename_i hblank
          exact ih (not_blank_concat hheaders hblank)

theorem readVideoRequest_eq_ok_iff :
    (readVideoRequest [] turns).1 = .ok request ↔
      Received request ∧ ∃ used, used <+: turns ∧ Arrives used request := by
  have hnil : ∀ start : List UInt8, start <+: [] → ¬blankLine <:+ start := by
    intro start hstart
    rw [List.prefix_nil.mp hstart]
    decide
  rw [readVideoRequest_iff hnil]
  constructor
  · rintro ⟨used, rest, bytes, rfl, harrives, rfl, hreceived⟩
    exact ⟨hreceived, used, List.prefix_append .., harrives⟩
  · rintro ⟨hreceived, used, ⟨rest, rfl⟩, harrives⟩
    exact ⟨used, rest, request, rfl, harrives, rfl, hreceived⟩

end Reading

/-- `split("\r\n")` -/
def splitLines : List Char → List (List Char)
  | [] => [[]]
  | '\r' :: '\n' :: rest => [] :: splitLines rest
  | c :: rest => (splitLines rest).modifyHead (c :: ·)

section Lines

variable {text before after : List Char}

theorem splitLines_ne_nil (text : List Char) : splitLines text ≠ [] := by
  fun_induction splitLines text with
  | case1 => simp
  | case2 rest ih => simp
  | case3 c rest _ ih => simpa [List.modifyHead_eq_nil_iff] using ih

/-- A line ends where the next one begins. -/
theorem splitLines_append (before after : List Char) :
    splitLines (before ++ '\r' :: '\n' :: after) = splitLines before ++ splitLines after := by
  fun_induction splitLines before with
  | case1 => rfl
  | case2 rest ih => simpa [splitLines] using ih
  | case3 c rest hnot ih =>
    obtain ⟨line, lines, hlines⟩ := List.exists_cons_of_ne_nil (splitLines_ne_nil rest)
    rw [List.cons_append, splitLines, ih, hlines]
    · rfl
    · rintro rest' rfl hrest
      rcases List.append_eq_cons_iff.mp hrest with ⟨rfl, hafter⟩ | ⟨tail, rfl, -⟩
      · simp at hafter
      · exact hnot tail rfl rfl

theorem head_splitLines_eq_nil (h : (splitLines text).head? = some []) :
    text = [] ∨ ['\r', '\n'] <+: text := by
  revert h
  fun_cases splitLines text with
  | case1 => exact fun _ => .inl rfl
  | case2 rest => exact fun _ => .inr ⟨rest, rfl⟩
  | case3 c rest _ =>
    intro h
    obtain ⟨line, lines, hlines⟩ := List.exists_cons_of_ne_nil (splitLines_ne_nil rest)
    simp [hlines] at h

/-- An empty line that is not the first one stands behind the end of a line. -/
theorem exists_of_nil_mem_tail (h : [] ∈ (splitLines text).tail) :
    ∃ before after, text = before ++ '\r' :: '\n' :: after ∧
      (after = [] ∨ ['\r', '\n'] <+: after) := by
  revert h
  fun_induction splitLines text with
  | case1 => simp
  | case2 rest ih =>
    intro h
    obtain ⟨line, lines, hlines⟩ := List.exists_cons_of_ne_nil (splitLines_ne_nil rest)
    rw [List.tail_cons, hlines] at h
    rcases List.mem_cons.mp h with rfl | hmem
    · exact ⟨[], rest, rfl, head_splitLines_eq_nil (by rw [hlines]; rfl)⟩
    · obtain ⟨before, after, rfl, hafter⟩ := ih (by rw [hlines]; exact hmem)
      exact ⟨'\r' :: '\n' :: before, after, rfl, hafter⟩
  | case3 c rest _ ih =>
    intro h
    obtain ⟨line, lines, hlines⟩ := List.exists_cons_of_ne_nil (splitLines_ne_nil rest)
    rw [hlines] at h ih
    obtain ⟨before, after, rfl, hafter⟩ := ih h
    exact ⟨c :: before, after, rfl, hafter⟩

theorem toNat_ofNat_byte (b : UInt8) : (Char.ofNat b.toNat).toNat = b.toNat := by
  have hlt := b.toNat_lt
  have hvalid : b.toNat.isValidChar := .inl (by omega)
  rw [Char.ofNat, dif_pos hvalid]
  rfl

theorem asciiText_injective : Function.Injective asciiText := by
  apply List.map_injective_iff.mpr
  intro a b h
  have htoNat := congrArg Char.toNat h
  rw [toNat_ofNat_byte, toNat_ofNat_byte] at htoNat
  exact UInt8.toNat_inj.mp htoNat

/-- The end of a line in the text is one in the bytes. -/
theorem exists_of_asciiText_eq {bytes : List UInt8}
    (h : asciiText bytes = before ++ '\r' :: '\n' :: after) :
    ∃ start rest, bytes = start ++ 13 :: 10 :: rest ∧ asciiText start = before ∧
      asciiText rest = after := by
  obtain ⟨start, rest, rfl, hstart, hrest⟩ := List.map_eq_append_iff.mp h
  obtain ⟨b, rest, rfl, hb, hrest⟩ := List.map_eq_cons_iff.mp hrest
  obtain ⟨c, rest, rfl, hc, hrest⟩ := List.map_eq_cons_iff.mp hrest
  have hinj := fun a b : UInt8 => @asciiText_injective [a] [b]
  have hb : b = 13 := List.singleton_injective (hinj b 13 (by simpa [asciiText] using hb))
  have hc : c = 10 := List.singleton_injective (hinj c 10 (by simpa [asciiText] using hc))
  exact ⟨start, rest, by rw [hb, hc], hstart, hrest⟩

/-- The first line, and the lines of the fields, none of them empty; two empty ones end the text. -/
theorem exists_lines {request : List UInt8} (h : Received request) :
    ∃ first lines, splitLines (asciiText request) = first :: (lines ++ [[], []]) ∧ [] ∉ lines := by
  obtain ⟨head, rfl⟩ := h.blank
  obtain ⟨first, lines, hlines⟩ := List.exists_cons_of_ne_nil (splitLines_ne_nil (asciiText head))
  refine ⟨first, lines, ?_, fun hmem => ?_⟩
  · have htext : asciiText (head ++ blankLine) =
        asciiText head ++ '\r' :: '\n' :: ['\r', '\n'] := List.map_append
    rw [htext, splitLines_append, hlines]
    rfl
  · have htail : [] ∈ (splitLines (asciiText head)).tail := by rwa [hlines]
    obtain ⟨before, after, htext, hafter⟩ := exists_of_nil_mem_tail htail
    obtain ⟨start, rest, rfl, -, hrest⟩ := exists_of_asciiText_eq htext
    -- A blank line would stand before the end of the request.
    have hearly : start ++ blankLine <+: start ++ 13 :: 10 :: rest ++ blankLine := by
      rw [List.append_assoc, List.prefix_append_right_inj]
      rcases hafter with rfl | ⟨more, rfl⟩
      · obtain rfl := List.map_eq_nil_iff.mp hrest
        exact ⟨[13, 10], rfl⟩
      · have hmore : asciiText rest = [] ++ '\r' :: '\n' :: more := hrest
        obtain ⟨early, later, rfl, hearly, -⟩ := exists_of_asciiText_eq hmore
        obtain rfl := List.map_eq_nil_iff.mp hearly
        exact ⟨later ++ blankLine, rfl⟩
    have hlength := congrArg List.length (h.first _ hearly (List.suffix_append start blankLine))
    simp only [List.length_append, List.length_cons] at hlength
    omega

end Lines

/-- The fields that decide about an answer. -/
structure Fields where
  host : Option String
  range : Option String

def fieldLimit : Nat := 64

/-- The loop over the lines of the header; none where it answers 400. -/
def readFields (fields : Fields) (count : Nat) : List (List Char) → Option Fields
  | [] => some fields
  | line :: lines =>
    if fieldLimit < count + 1 then none
    else
      match splitOnce ':' line with
      | none => none
      | some (name, value) =>
        let value := trim (String.ofList value)
        let name := String.ofList (name.map Char.toLower)
        if name = "host" then
          if fields.host.isNone then readFields { fields with host := some value } (count + 1) lines
          else none
        else if name = "range" then
          if fields.range.isNone then readFields { fields with range := some value } (count + 1) lines
          else none
        else if name = "transfer-encoding" then none
        else if name = "content-length" ∧ value ≠ "0" then none
        else readFields fields (count + 1) lines

variable {line : List Char} {lines : List (List Char)} {fields start : Fields} {count : Nat}
  {name value : String}

def fieldOf (line : List Char) : Option (String × String) :=
  (splitOnce ':' line).map fun field =>
    (String.ofList (field.1.map Char.toLower), trim (String.ofList field.2))

/-- The values of all fields of one name. -/
def valuesOf (name : String) (lines : List (List Char)) : List String :=
  (lines.filterMap fieldOf).filterMap fun field => if field.1 = name then some field.2 else none

/-- Every line is a field, at most 64 of them; no two name a host or a range, and none announces a
body. -/
structure WellFormed (lines : List (List Char)) (fields : Fields) : Prop where
  count : lines.length ≤ fieldLimit
  colon : ∀ line ∈ lines, ':' ∈ line
  host : valuesOf "host" lines = fields.host.toList
  range : valuesOf "range" lines = fields.range.toList
  encoding : valuesOf "transfer-encoding" lines = []
  length : ∀ value ∈ valuesOf "content-length" lines, value = "0"

theorem fieldOf_eq_none_iff : fieldOf line = none ↔ ':' ∉ line := by
  rw [fieldOf, Option.map_eq_none_iff, splitOnce]
  split <;> simp_all

theorem valuesOf_cons (hfield : fieldOf line = some (name, value)) (other : String) :
    valuesOf other (line :: lines) =
      if name = other then value :: valuesOf other lines else valuesOf other lines := by
  rw [valuesOf, List.filterMap_cons_some hfield, List.filterMap_cons]
  split <;> rename_i h <;> split at h <;> simp_all [valuesOf]

/-- The loop in terms of the field that a line is. -/
theorem readFields_cons (hfield : fieldOf line = some (name, value)) (hcount : count + 1 ≤ fieldLimit) :
    readFields start count (line :: lines) =
      if name = "host" then
        if start.host.isNone then readFields { start with host := some value } (count + 1) lines
        else none
      else if name = "range" then
        if start.range.isNone then readFields { start with range := some value } (count + 1) lines
        else none
      else if name = "transfer-encoding" then none
      else if name = "content-length" ∧ value ≠ "0" then none
      else readFields start (count + 1) lines := by
  obtain ⟨⟨before, after⟩, hsplit, hpair⟩ := Option.map_eq_some_iff.mp hfield
  obtain ⟨rfl, rfl⟩ := Prod.mk.inj hpair
  rw [readFields, if_neg (Nat.not_lt.mpr hcount), hsplit]

theorem readFields_cons_of_not_field (hline : fieldOf line = none) :
    readFields start count (line :: lines) = none := by
  have hsplit : splitOnce ':' line = none := Option.map_eq_none_iff.mp hline
  rw [readFields, hsplit]
  split <;> rfl

/-- The same with the fields and the number of lines before. -/
structure Continues (start : Fields) (count : Nat) (lines : List (List Char)) (fields : Fields) :
    Prop where
  count : count + lines.length ≤ fieldLimit
  colon : ∀ line ∈ lines, ':' ∈ line
  host : start.host.toList ++ valuesOf "host" lines = fields.host.toList
  range : start.range.toList ++ valuesOf "range" lines = fields.range.toList
  encoding : valuesOf "transfer-encoding" lines = []
  length : ∀ value ∈ valuesOf "content-length" lines, value = "0"

theorem toList_append_cons (o : Option String) (value : String) (rest : List String)
    (found : Option String) : o.toList ++ value :: rest = found.toList ↔
      o.isNone = true ∧ (some value).toList ++ rest = found.toList := by
  cases o with
  | none => simp
  | some a => cases found <;> simp

theorem Continues.nil_iff (hcount : count ≤ fieldLimit) :
    Continues start count [] fields ↔ start = fields := by
  constructor
  · rintro ⟨-, -, hhost, hrange, -, -⟩
    obtain ⟨host, range⟩ := start
    obtain ⟨host', range'⟩ := fields
    cases host <;> cases host' <;> cases range <;> cases range' <;> simp_all [valuesOf]
  · rintro rfl
    exact ⟨hcount, by simp, by simp [valuesOf], by simp [valuesOf], rfl, by simp [valuesOf]⟩

/-- One more line, in the terms of the loop. -/
theorem Continues.cons_iff (hfield : fieldOf line = some (name, value)) :
    Continues start count (line :: lines) fields ↔
      if name = "host" then
        start.host.isNone = true ∧
          Continues { start with host := some value } (count + 1) lines fields
      else if name = "range" then
        start.range.isNone = true ∧
          Continues { start with range := some value } (count + 1) lines fields
      else ¬(name = "transfer-encoding") ∧ ¬(name = "content-length" ∧ value ≠ "0") ∧
        Continues start (count + 1) lines fields := by
  have hcolon : ':' ∈ line := by
    by_contra hnot
    rw [fieldOf_eq_none_iff.mpr hnot] at hfield
    contradiction
  have hlength : count + (line :: lines).length = count + 1 + lines.length := by
    rw [List.length_cons]
    omega
  have hparts : Continues start count (line :: lines) fields ↔
      count + 1 + lines.length ≤ fieldLimit ∧ (∀ line ∈ lines, ':' ∈ line) ∧
        start.host.toList ++ valuesOf "host" (line :: lines) = fields.host.toList ∧
        start.range.toList ++ valuesOf "range" (line :: lines) = fields.range.toList ∧
        valuesOf "transfer-encoding" (line :: lines) = [] ∧
        ∀ value ∈ valuesOf "content-length" (line :: lines), value = "0" := by
    constructor
    · rintro ⟨hcount, hlines, hhost, hrange, hencoding, hzero⟩
      exact ⟨hlength ▸ hcount, fun l hl => hlines l (List.mem_cons_of_mem _ hl), hhost, hrange,
        hencoding, hzero⟩
    · rintro ⟨hcount, hlines, hhost, hrange, hencoding, hzero⟩
      exact ⟨hlength ▸ hcount, List.forall_mem_cons.mpr ⟨hcolon, hlines⟩, hhost, hrange, hencoding,
        hzero⟩
  rw [hparts]
  simp only [valuesOf_cons hfield]
  split
  · rename_i hname
    subst hname
    rw [if_neg (by decide), if_neg (by decide), if_neg (by decide), toList_append_cons]
    constructor
    · rintro ⟨hcount, hlines, ⟨hnone, hhost⟩, hrange, hencoding, hzero⟩
      exact ⟨hnone, hcount, hlines, hhost, hrange, hencoding, hzero⟩
    · rintro ⟨hnone, hcount, hlines, hhost, hrange, hencoding, hzero⟩
      exact ⟨hcount, hlines, ⟨hnone, hhost⟩, hrange, hencoding, hzero⟩
  · split
    · rename_i hname
      subst hname
      rw [if_neg (by decide), if_neg (by decide), toList_append_cons]
      constructor
      · rintro ⟨hcount, hlines, hhost, ⟨hnone, hrange⟩, hencoding, hzero⟩
        exact ⟨hnone, hcount, hlines, hhost, hrange, hencoding, hzero⟩
      · rintro ⟨hnone, hcount, hlines, hhost, hrange, hencoding, hzero⟩
        exact ⟨hcount, hlines, hhost, ⟨hnone, hrange⟩, hencoding, hzero⟩
    · by_cases hencoding : name = "transfer-encoding"
      · simp [hencoding]
      · rw [if_neg hencoding]
        by_cases hname : name = "content-length"
        · rw [if_pos hname, List.forall_mem_cons]
          constructor
          · rintro ⟨hcount, hlines, hhost, hrange, hencoded, hvalue, hzero⟩
            exact ⟨hencoding, fun h => h.2 hvalue, hcount, hlines, hhost, hrange, hencoded, hzero⟩
          · rintro ⟨_, hvalue, hcount, hlines, hhost, hrange, hencoded, hzero⟩
            exact ⟨hcount, hlines, hhost, hrange, hencoded, not_ne_iff.mp fun h => hvalue ⟨hname, h⟩,
              hzero⟩
        · rw [if_neg hname]
          constructor
          · rintro ⟨hcount, hlines, hhost, hrange, hencoded, hzero⟩
            exact ⟨hencoding, fun h => hname h.1, hcount, hlines, hhost, hrange, hencoded, hzero⟩
          · rintro ⟨_, _, hcount, hlines, hhost, hrange, hencoded, hzero⟩
            exact ⟨hcount, hlines, hhost, hrange, hencoded, hzero⟩

theorem readFields_iff_continues (hcount : count ≤ fieldLimit) :
    readFields start count lines = some fields ↔ Continues start count lines fields := by
  induction lines generalizing start count with
  | nil => rw [Continues.nil_iff hcount, readFields, Option.some.injEq]
  | cons line lines ih =>
    by_cases hnext : count + 1 ≤ fieldLimit
    · cases hfield : fieldOf line with
      | none =>
        rw [readFields_cons_of_not_field hfield]
        refine iff_of_false (by simp) fun h => fieldOf_eq_none_iff.mp hfield ?_
        exact h.colon line List.mem_cons_self
      | some field =>
        rw [Continues.cons_iff hfield, readFields_cons hfield hnext]
        split
        · split
          · rename_i hnone
            rw [ih hnext]
            simp [hnone]
          · rename_i hsome
            simp [hsome]
        · split
          · split
            · rename_i hnone
              rw [ih hnext]
              simp [hnone]
            · rename_i hsome
              simp [hsome]
          · split
            · rename_i hencoding
              simp [hencoding]
            · rename_i hencoding
              split
              · rename_i hlength
                simp [hlength]
              · rename_i hlength
                rw [ih hnext]
                exact ⟨fun h => ⟨hencoding, hlength, h⟩, fun h => h.2.2⟩
    · rw [readFields, if_pos (Nat.lt_of_not_le hnext)]
      refine iff_of_false (by simp) fun h => hnext ?_
      have hall := h.count
      rw [List.length_cons] at hall
      omega

/-- The loop finds the fields of a well-formed header, and fails on every other. -/
theorem readFields_eq_some_iff : readFields ⟨none, none⟩ 0 lines = some fields ↔
    WellFormed lines fields := by
  rw [readFields_iff_continues (Nat.zero_le _)]
  constructor
  · rintro ⟨hcount, hcolon, hhost, hrange, hencoding, hlength⟩
    exact ⟨Nat.zero_add lines.length ▸ hcount, hcolon, hhost, hrange, hencoding, hlength⟩
  · rintro ⟨hcount, hcolon, hhost, hrange, hencoding, hlength⟩
    exact ⟨(Nat.zero_add lines.length).symm ▸ hcount, hcolon, hhost, hrange, hencoding, hlength⟩

end ArtForgeStudio.VideoPlayer
