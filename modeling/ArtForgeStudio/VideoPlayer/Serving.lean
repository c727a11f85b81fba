import ArtForgeStudio.Library.Emissions
import ArtForgeStudio.VideoPlayer.Requests

/-! # Serving a video

One connection at a time is read, answered and closed. The socket takes as many bytes of an answer as
it likes, the account may be retired between any two of them, and the file is read behind a handle
that is looked at again for every piece.
-/

namespace ArtForgeStudio.VideoPlayer

open ArtForgeStudio.Api ArtForgeStudio.Outcome ArtForgeStudio.Emissions

/-- One turn of the loop of `write_video_bytes`; behind the last turn the deadline has passed. -/
structure WriteTurn where
  current : Bool
  late : Bool
  written : Option Nat

/-- What a look at the retained file finds: the lock, the links and the size of the file, and the
bytes behind the handle. -/
structure SourceTurn where
  locked : Bool
  metadata : Option (Nat × Nat)
  content : Option (List UInt8)

/-- What the outside still answers, and what was sent. A gate is the account's `begin_effect` or the
look at the two flags that cancel. -/
structure Connection where
  reads : List ReadTurn
  writes : List WriteTurn
  gates : List Bool
  sources : List SourceTurn
  cancel : Bool
  sent : List UInt8

def Connection.store (connection : Connection) : Connection := { connection with cancel := true }

abbrev Serves (α : Type) : Type := Program Connection String α

def lift {α : Type} (result : Except String α) : Serves α := fun connection => (result, connection)

def readRequest : Serves (List UInt8) := fun connection =>
  let (result, reads) := readVideoRequest [] connection.reads
  (result, { connection with reads := reads })

def ensureGate (error : String) : Serves Unit := fun connection =>
  match connection.gates with
  | [] => (.error error, connection)
  | admitted :: gates => (ensure (admitted = true) error, { connection with gates := gates })

/-- What is written, and the turns that are left. -/
def writeTurns (checked : Bool) (bytes : List UInt8) :
    List WriteTurn → Except String Unit × List WriteTurn × List UInt8
  | [] => (if bytes = [] then .ok () else .error "video write deadline", [], [])
  | turn :: turns =>
    if bytes = [] then (.ok (), turn :: turns, [])
    else if checked && !turn.current then (.error "video write cancelled", turns, [])
    else if turn.late then (.error "video write deadline", turns, [])
    else
      match turn.written with
      | none => (.error "write failed", turns, [])
      | some 0 => (.error "video connection closed", turns, [])
      | some written =>
        let (result, turns, sent) := writeTurns checked (bytes.drop written) turns
        (result, turns, bytes.take written ++ sent)

def writeVideoBytes (checked : Bool) (bytes : List UInt8) : Serves Unit := fun connection =>
  let (result, writes, sent) := writeTurns checked bytes connection.writes
  (result, { connection with writes := writes, sent := connection.sent ++ sent })

def videoStreamChunk : Nat := 64 * 1024

def sourceBytes (size offset count : Nat) (turn : SourceTurn) : Except String (List UInt8) := do
  ensure (turn.locked = true) "video source unavailable"
  match turn.metadata with
  | none => .error "video source unavailable"
  | some (linkCount, byteSize) => do
    ensure (linkCount = 1 ∧ byteSize = size) "video source changed"
    match turn.content with
    | none => .error "video source unavailable"
    | some content =>
      if offset + count ≤ content.length then .ok ((content.drop offset).take count)
      else .error "failed to fill whole buffer"

def readChunk (size offset count : Nat) : Serves (List UInt8) := fun connection =>
  if count ≤ videoStreamChunk ∧ offset ≤ size ∧ count ≤ size - offset then
    match connection.sources with
    | [] => (.error "video source unavailable", connection)
    | turn :: sources => (sourceBytes size offset count turn, { connection with sources := sources })
  else (.error "invalid video chunk", connection)

/-- `as_bytes` -/
def asBytes (text : String) : List UInt8 := text.toUTF8.toList

/-- The text of the parsed address; the port of the scheme is not written. -/
def localVideoUrl (port : Nat) (token endpoint : String) : String :=
  "http://127.0.0.1" ++ (if port = 80 then "" else ":" ++ toString port) ++ "/" ++ endpoint ++ "/" ++
    token

def isAsciiHexdigit (c : Char) : Bool :=
  c.isDigit || ('a' ≤ c && c ≤ 'f') || ('A' ≤ c && c ≤ 'F')

def validatedLocalVideoUrl (port : Nat) (token endpoint : String) : Except String String := do
  ensure (port ≠ 0 ∧ token.toList.length = 32 ∧ token.toList.all isAsciiHexdigit)
    "invalid owned player endpoint"
  ensure (endpoint = "media" ∨ endpoint = "player" ∨ endpoint = "player-preview")
    "invalid owned player route"
  .ok (localVideoUrl port token endpoint)

/-- The address has no character that JSON writes in another way. -/
def playerHtml (template videoUrl : String) (previewMode : Bool) : String :=
  (template.replace "__VIDEO_SRC_JSON__" ("\"" ++ videoUrl ++ "\"")).replace "__PREVIEW_MODE__"
    (if previewMode then "true" else "false")

/-- The listener of one video: its secret, its port, the kind and the size of the video, and the page
around it. -/
structure Player where
  token : String
  port : Nat
  mime : String
  size : Nat
  template : String
  port_ne_zero : port ≠ 0
  token_length : token.toList.length = 32
  token_hex : token.toList.all isAsciiHexdigit = true

namespace Player

variable (player : Player)

inductive Route where
  | media
  | page (preview : Bool)
deriving DecidableEq

def path : Route → String
  | .media => "/media/" ++ player.token
  | .page false => "/player/" ++ player.token
  | .page true => "/player-preview/" ++ player.token

/-- Whether the body is asked for, and of what; none where the first line is answered 404. -/
def route (first : List Char) : Option (Bool × Route) :=
  match (first.splitOn ' ').map String.ofList with
  | [method, path, version] =>
    if (method = "GET" ∨ method = "HEAD") ∧
        (path = player.path .media ∨ path = player.path (.page false) ∨
          path = player.path (.page true)) ∧
        version = "HTTP/1.1" then
      some (method = "GET",
        if path = player.path (.page false) ∨ path = player.path (.page true) then
          .page (path = player.path (.page true))
        else .media)
    else none
  | _ => none

inductive Reply where
  | rejected (code : Nat) (size : Option Nat)
  | page (preview : Bool)
  | media (start length : Nat) (part : Bool)

/-- The decisions of `serve_video_connection`, before anything is sent. -/
def reply (request : List UInt8) : Bool × Reply :=
  let lines := splitLines (asciiText request)
  match player.route (lines.headD []) with
  | none => (true, .rejected 404 none)
  | some (get, route) =>
    match readFields ⟨none, none⟩ 0 (lines.tail.takeWhile (· ≠ [])) with
    | none => (get, .rejected 400 none)
    | some fields =>
      if fields.host ≠ some ("127.0.0.1:" ++ toString player.port) then (get, .rejected 404 none)
      else
        match route with
        | .page preview =>
          if fields.range.isSome then (get, .rejected 400 none) else (get, .page preview)
        | .media =>
          match videoRange (fields.range.map String.toList) player.size with
          | .ok (start, length, part) => (get, .media start length part)
          | .error _ => (get, .rejected 416 (some player.size))

def emptyHeaders (code : Nat) (size : Option Nat) : String :=
  "HTTP/1.1 " ++ toString code ++ " Rejected\r\nContent-Type: application/octet-stream\r\n" ++
    "Content-Length: 0\r\nConnection: close\r\nCache-Control: no-store\r\n" ++
    (match size with
      | some size => "Content-Range: bytes */" ++ toString size ++ "\r\n"
      | none => "") ++ "\r\n"

def pageHeaders (length : Nat) : String :=
  "HTTP/1.1 200 OK\r\nContent-Type: text/html; charset=utf-8\r\nContent-Length: " ++
    toString length ++ "\r\nCache-Control: no-store\r\nX-Content-Type-Options: nosniff\r\n" ++
    "Content-Security-Policy: default-src 'none'; media-src 'self'; " ++
    "style-src 'unsafe-inline'; script-src 'unsafe-inline'\r\nConnection: close\r\n\r\n"

def mediaHeaders (start finish length : Nat) (part : Bool) : String :=
  "HTTP/1.1 " ++ (if part then "206 Partial Content" else "200 OK") ++ "\r\nContent-Type: " ++
    player.mime ++ "\r\nContent-Length: " ++ toString length ++
    "\r\nAccept-Ranges: bytes\r\nCache-Control: no-store\r\nConnection: close\r\n" ++
    (if part then "Content-Range: bytes " ++ toString start ++ "-" ++ toString (finish - 1) ++ "/" ++
      toString player.size ++ "\r\n" else "") ++ "\r\n"

end Player

def emptyVideoResponse (code : Nat) (size : Option Nat) : Serves Unit :=
  writeVideoBytes false (asBytes (Player.emptyHeaders code size))

def servePage (player : Player) (get preview : Bool) : Serves Unit := do
  let mediaUrl ← lift (validatedLocalVideoUrl player.port player.token "media")
  let body := asBytes (playerHtml player.template mediaUrl preview)
  ensureGate "private persistence is retired"
  ensureGate "video player page cancelled"
  writeVideoBytes true (asBytes (Player.pageHeaders body.length))
  if get then writeVideoBytes true body else pure ()

/-- The loop over the pieces; a piece that cannot be read cancels the listener. -/
def serveBody (player : Player) (offset finish : Nat) : Serves Unit :=
  if _h : offset < finish then do
    ensureGate "private persistence is retired"
    ensureGate "video stream cancelled"
    let count := min (finish - offset) videoStreamChunk
    let bytes ← (readChunk player.size offset count).onError Connection.store
    ensureGate "video stream cancelled"
    writeVideoBytes true bytes
    serveBody player (offset + count) finish
  else pure ()
termination_by finish - offset
decreasing_by
  have hpos : 0 < videoStreamChunk := by decide
  omega

/-- The place behind the last one. -/
def rangeEnd (size start length : Nat) : Except String Nat :=
  match (checkedAdd start length).filter (· ≤ size) with
  | some finish => .ok finish
  | none => .error "range overflow"

def serveMedia (player : Player) (get : Bool) (start length : Nat) (part : Bool) : Serves Unit := do
  let finish ← lift (rangeEnd player.size start length)
  ensureGate "private persistence is retired"
  ensureGate "video stream cancelled"
  writeVideoBytes true (asBytes (player.mediaHeaders start finish length part))
  if get then serveBody player start finish else pure ()

def respond (player : Player) : Bool × Player.Reply → Serves Unit
  | (_, .rejected code size) => emptyVideoResponse code size
  | (get, .page preview) => servePage player get preview
  | (get, .media start length part) => serveMedia player get start length part

def serveVideoConnection (player : Player) : Serves Unit := do
  let request ← readRequest
  respond player (player.reply request)

namespace Player

/-- The answer to a request, for a file with these bytes. -/
def response (player : Player) (file : List UInt8) : Bool × Reply → List UInt8
  | (_, .rejected code size) => asBytes (emptyHeaders code size)
  | (get, .page preview) =>
    let body := asBytes (playerHtml player.template (localVideoUrl player.port player.token "media")
      preview)
    asBytes (pageHeaders body.length) ++ if get then body else []
  | (get, .media start length part) =>
    asBytes (player.mediaHeaders start (start + length) length part) ++
      if get then (file.drop start).take length else []

end Player

/-- Whenever the file is looked at, the bytes behind the handle are these. -/
def Holds (file : List UInt8) (connection : Connection) : Prop :=
  ∀ turn ∈ connection.sources, ∀ content, turn.content = some content → content = file

variable {player : Player} {file bytes : List UInt8} {turns : List WriteTurn} {checked get : Bool}
  {offset count finish start length size : Nat} {error : String}

theorem writeTurns_sent (checked : Bool) (bytes : List UInt8) (turns : List WriteTurn) :
    (writeTurns checked bytes turns).2.2 <+: bytes ∧
      ((writeTurns checked bytes turns).1 = .ok () → (writeTurns checked bytes turns).2.2 = bytes) := by
  induction turns generalizing bytes with
  | nil =>
    unfold writeTurns
    split <;> simp_all
  | cons turn turns ih =>
    unfold writeTurns
    split
    · rename_i hnil
      simp [hnil]
    split
    · simp
    split
    · simp
    split
    · simp
    · simp
    · rename_i written _ _
      obtain ⟨hsent, hall⟩ := ih (bytes.drop written)
      dsimp only
      refine ⟨?_, fun h => ?_⟩
      · conv_rhs => rw [← List.take_append_drop written bytes]
        exact (List.prefix_append_right_inj _).mpr hsent
      · rw [hall h, List.take_append_drop]

theorem writeVideoBytes_emits : Emits Connection.sent (Holds file) bytes (fun _ => True)
    (writeVideoBytes checked bytes) := by
  intro connection hholds
  obtain ⟨hsent, hall⟩ := writeTurns_sent checked bytes connection.writes
  refine ⟨hholds, ⟨⟨_, hsent, rfl⟩, fun u hu => ?_⟩, fun _ _ => trivial⟩
  change connection.sent ++ (writeTurns checked bytes connection.writes).2.2 = _
  rw [hall hu]

theorem ensureGate_emits :
    Emits Connection.sent (Holds file) [] (fun _ => True) (ensureGate error) := by
  refine Emits.silent ?_ ?_ fun _ _ _ _ => trivial
  all_goals
    intro connection
    unfold ensureGate
    split
    · simp
    · simp [Holds]

theorem lift_emits {α : Type} {result : Except String α} :
    Emits Connection.sent (Holds file) [] (fun a => result = .ok a) (lift result) :=
  Emits.silent (fun _ h => h) (fun _ => rfl) fun _ _ _ h => h

theorem sourceBytes_eq_ok {turn : SourceTurn}
    (hcontent : ∀ content, turn.content = some content → content = file)
    (h : sourceBytes size offset count turn = .ok bytes) : bytes = (file.drop offset).take count := by
  obtain ⟨_, -, h⟩ := bind_eq_ok.mp h
  split at h
  · contradiction
  obtain ⟨_, -, h⟩ := bind_eq_ok.mp h
  split at h
  · contradiction
  rename_i content hsome
  split at h
  · rw [← hcontent content hsome]
    exact (Except.ok.inj h).symm
  · contradiction

theorem readChunk_emits : Emits Connection.sent (Holds file) []
    (fun bytes => bytes = (file.drop offset).take count) (readChunk size offset count) := by
  refine Emits.silent ?_ ?_ ?_
  · intro connection hholds
    unfold readChunk
    split
    · split
      · exact hholds
      · rename_i turn sources hsources
        intro later hlater
        exact hholds later (by rw [hsources]; exact List.mem_cons_of_mem _ hlater)
    · exact hholds
  · intro connection
    unfold readChunk
    split
    · split <;> rfl
    · rfl
  · intro connection hholds bytes hbytes
    unfold readChunk at hbytes
    split at hbytes
    · split at hbytes
      · contradiction
      · rename_i turn sources hsources
        exact sourceBytes_eq_ok (hholds turn (by rw [hsources]; exact List.mem_cons_self)) hbytes
    · contradiction

/-- What the pieces from a place on are together. -/
theorem serveBody_emits (player : Player) (offset finish : Nat) :
    Emits Connection.sent (Holds file) ((file.drop offset).take (finish - offset)) (fun _ => True)
      (serveBody player offset finish) := by
  unfold serveBody
  split
  · rename_i hlt
    have hpos : 0 < videoStreamChunk := by decide
    have hsplit : (file.drop offset).take (finish - offset) =
        [] ++ ([] ++ ([] ++ ([] ++ ((file.drop offset).take (min (finish - offset) videoStreamChunk) ++
          (file.drop (offset + min (finish - offset) videoStreamChunk)).take
            (finish - (offset + min (finish - offset) videoStreamChunk)))))) := by
      simp only [List.nil_append]
      rw [← List.drop_drop, ← List.take_add]
      congr 1
      omega
    rw [hsplit]
    refine ensureGate_emits.bind fun _ _ => ensureGate_emits.bind fun _ _ => ?_
    have hchunk : Emits Connection.sent (Holds file) [] _
        ((readChunk player.size offset (min (finish - offset) videoStreamChunk)).onError
          Connection.store) := readChunk_emits.onError (fun _ h => h) fun _ => rfl
    refine hchunk.bind fun bytes hbytes => ?_
    refine ensureGate_emits.bind fun _ _ => ?_
    subst hbytes
    exact writeVideoBytes_emits.bind fun _ _ => serveBody_emits player _ finish
  · rename_i hle
    rw [Nat.sub_eq_zero_of_le (Nat.not_lt.mp hle), List.take_zero]
    exact Emits.pure trivial
termination_by finish - offset
decreasing_by
  have hpos : 0 < videoStreamChunk := by decide
  omega

theorem rangeEnd_eq_ok (h : rangeEnd size start length = .ok finish) : finish = start + length := by
  unfold rangeEnd at h
  split at h
  · rename_i sum hsum
    obtain ⟨hadd, -⟩ := Option.filter_eq_some_iff.mp hsum
    unfold checkedAdd at hadd
    split at hadd
    · rw [← Except.ok.inj h, Option.some.inj hadd]
    · contradiction
  · contradiction

theorem serveMedia_emits {part : Bool} : Emits Connection.sent (Holds file)
    (player.response file (get, .media start length part)) (fun _ => True)
    (serveMedia player get start length part) := by
  change Emits _ _ ([] ++ ([] ++ ([] ++ (_ ++ _)))) _ _
  refine lift_emits.bind fun finish hfinish => ?_
  refine ensureGate_emits.bind fun _ _ => ensureGate_emits.bind fun _ _ => ?_
  obtain rfl := rangeEnd_eq_ok hfinish
  refine writeVideoBytes_emits.bind fun _ _ => ?_
  split
  · have hbody : Emits Connection.sent (Holds file)
        ((file.drop start).take (start + length - start)) (fun _ => True)
        (serveBody player start (start + length)) := serveBody_emits player start (start + length)
    rwa [Nat.add_sub_cancel_left] at hbody
  · exact Emits.pure trivial

theorem validatedLocalVideoUrl_media (player : Player) :
    validatedLocalVideoUrl player.port player.token "media" =
      .ok (localVideoUrl player.port player.token "media") := by
  have hvalid := And.intro player.port_ne_zero (And.intro player.token_length player.token_hex)
  rw [validatedLocalVideoUrl, ensure, if_pos hvalid]
  rfl

theorem servePage_emits {preview : Bool} : Emits Connection.sent (Holds file)
    (player.response file (get, .page preview)) (fun _ => True) (servePage player get preview) := by
  change Emits _ _ ([] ++ ([] ++ ([] ++ (_ ++ _)))) _ _
  refine lift_emits.bind fun mediaUrl hurl => ?_
  rw [validatedLocalVideoUrl_media] at hurl
  obtain rfl := Except.ok.inj hurl
  refine ensureGate_emits.bind fun _ _ => ensureGate_emits.bind fun _ _ => ?_
  refine writeVideoBytes_emits.bind fun _ _ => ?_
  split
  · exact writeVideoBytes_emits
  · exact Emits.pure trivial

theorem respond_emits (reply : Bool × Player.Reply) : Emits Connection.sent (Holds file)
    (player.response file reply) (fun _ => True) (respond player reply) := by
  obtain ⟨get, _ | _ | _⟩ := reply
  · exact writeVideoBytes_emits
  · exact servePage_emits
  · exact serveMedia_emits

end ArtForgeStudio.VideoPlayer
