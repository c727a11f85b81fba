import ArtForgeStudio.Directories.ManagedKeys
import ArtForgeStudio.LocalStore.Save
import ArtForgeStudio.VideoPlayer.Listener

/-! # Preparing a video

Before a listener is bound, the whole file is read in pieces and compared with the digest of the
receipt. So a player that is answered in full without a range has a file with that digest.
-/

namespace ArtForgeStudio.VideoPlayer

open ArtForgeStudio.Outcome ArtForgeStudio.Emissions ArtForgeStudio.Directories

/-- One turn of the loop that reads the file for its digest. -/
structure DigestTurn where
  current : Bool
  admitted : Bool
  source : SourceTurn

/-- The bytes that went into the digest. -/
def digestTurns (size offset : Nat) (digest : List UInt8) :
    List DigestTurn → Except String (List UInt8)
  | [] => if offset < size then .error "video source unavailable" else .ok digest
  | turn :: turns =>
    if offset < size then do
      ensure (turn.current = true) "video preparation cancelled"
      ensure (turn.admitted = true) "private persistence is retired"
      let count := min (size - offset) videoStreamChunk
      let bytes ← sourceBytes size offset count turn.source
      digestTurns size (offset + count) (digest ++ bytes) turns
    else .ok digest

/-- `Path::extension` of the name of a file -/
def extension (name : List Char) : Option (List Char) :=
  let after := (name.reverse.takeWhile (· ≠ '.')).reverse
  if '.' ∈ name ∧ after.length + 1 < name.length then some after else none

def videoMime (name : String) : Except String String :=
  match (extension name.toList).map fun part => String.ofList (part.map Char.toLower) with
  | some "mp4" => .ok "video/mp4"
  | some "webm" => .ok "video/webm"
  | some "mov" => .ok "video/quicktime"
  | _ => .error "unsupported local video"

/-- What the outside answers to a preparation: the gates before and behind the digest, the file behind
a key with its links and its size, the port that was bound, the page, and a fresh secret. -/
structure Preparing where
  activity : Bool
  current : Bool
  admitted : Bool
  opened : ManagedFileKey → Except String (Nat × Nat)
  turns : List DigestTurn
  stillCurrent : Bool
  port : Except String Nat
  token : String
  spawned : Bool
  template : String

/-- The place of the file below the directory of the videos. -/
def relativeName (space : UserNamespace) (sourcePath : String) : Except String String := do
  ensure (isAbsolute sourcePath = true ∧ space.path .videos <+: components sourcePath)
    "video is outside captured namespace"
  .ok ("/".intercalate ((components sourcePath).drop (space.path .videos).length))

def checkReceipt (output : LocalStore.SavedVideoOutput) : Except String Unit :=
  ensure (0 < output.sizeBytes ∧ output.sizeBytes ≤ 0x7FFFFFFFFFFFFFFF ∧
    output.sha256.toList.length = 64 ∧ output.sha256.toList.all isAsciiHexdigit)
    "invalid retained video receipt"

/-- Bind the listener; the address of the page is made from the same parts as the one of the video. -/
def bindPlayer (output : LocalStore.SavedVideoOutput) (mime : String) (preparing : Preparing) :
    Except String Player := do
  let port ← preparing.port
  if h : port ≠ 0 ∧ preparing.token.toList.length = 32 ∧
      preparing.token.toList.all isAsciiHexdigit = true then do
    rejectIf (port = 80) "missing player port"
    ensure (preparing.spawned = true) "player shutdown has started"
    .ok ⟨preparing.token, port, mime, output.sizeBytes, preparing.template, h.1, h.2.1, h.2.2⟩
  else .error "invalid owned player endpoint"

def prepareVideoPlayback (sha256 : List UInt8 → String) (space : UserNamespace)
    (output : LocalStore.SavedVideoOutput) (preparing : Preparing) : Except String Player := do
  ensure (preparing.activity = true) "private persistence is retired"
  ensure (preparing.current = true) "video preparation cancelled"
  let relative ← relativeName space output.sourcePath
  let mime ← videoMime ((components output.sourcePath).getLastD "")
  checkReceipt output
  let key ← ManagedFileKey.new .videos relative
  ensure (preparing.admitted = true) "private persistence is retired"
  let (linkCount, byteSize) ← preparing.opened key
  ensure (linkCount = 1 ∧ byteSize = output.sizeBytes) "video receipt size mismatch"
  let digest ← digestTurns output.sizeBytes 0 [] preparing.turns
  ensure (eqIgnoreAsciiCase (sha256 digest) output.sha256) "video receipt digest mismatch"
  ensure (preparing.stillCurrent = true) "video preparation cancelled"
  bindPlayer output mime preparing

variable {file digest bytes : List UInt8} {size offset : Nat} {turns : List DigestTurn}

/-- Whenever the file is looked at during the preparation, the bytes behind the handle are these. -/
def Preparing.Holds (file : List UInt8) (preparing : Preparing) : Prop :=
  ∀ turn ∈ preparing.turns, ∀ content, turn.source.content = some content → content = file

theorem length_sourceBytes {count : Nat} {turn : SourceTurn}
    (h : sourceBytes size offset count turn = .ok bytes) : bytes.length = count := by
  obtain ⟨_, -, h⟩ := bind_eq_ok.mp h
  split at h
  · contradiction
  obtain ⟨_, -, h⟩ := bind_eq_ok.mp h
  split at h
  · contradiction
  split at h
  · rename_i hin
    rw [← Except.ok.inj h, List.length_take, List.length_drop]
    omega
  · contradiction

theorem length_digestTurns (h : digestTurns size offset digest turns = .ok bytes) :
    bytes.length = digest.length + (size - offset) := by
  induction turns generalizing offset digest with
  | nil =>
    unfold digestTurns at h
    split at h
    · contradiction
    · rw [← Except.ok.inj h]
      omega
  | cons turn turns ih =>
    unfold digestTurns at h
    split at h
    · obtain ⟨_, -, h⟩ := bind_eq_ok.mp h
      obtain ⟨_, -, h⟩ := bind_eq_ok.mp h
      obtain ⟨piece, hpiece, h⟩ := bind_eq_ok.mp h
      rw [ih h, List.length_append, length_sourceBytes hpiece]
      omega
    · rw [← Except.ok.inj h]
      omega

theorem digestTurns_eq_ok
    (hholds : ∀ turn ∈ turns, ∀ content, turn.source.content = some content → content = file)
    (h : digestTurns size offset digest turns = .ok bytes) :
    bytes = digest ++ (file.drop offset).take (size - offset) := by
  induction turns generalizing offset digest with
  | nil =>
    unfold digestTurns at h
    split at h
    · contradiction
    · rename_i hle
      rw [Nat.sub_eq_zero_of_le (Nat.not_lt.mp hle), List.take_zero, List.append_nil]
      exact (Except.ok.inj h).symm
  | cons turn turns ih =>
    unfold digestTurns at h
    split at h
    · obtain ⟨_, -, h⟩ := bind_eq_ok.mp h
      obtain ⟨_, -, h⟩ := bind_eq_ok.mp h
      obtain ⟨piece, hpiece, h⟩ := bind_eq_ok.mp h
      have hbytes := sourceBytes_eq_ok (hholds turn List.mem_cons_self) hpiece
      rw [ih (fun later hlater => hholds later (List.mem_cons_of_mem _ hlater)) h, hbytes,
        List.append_assoc, ← List.drop_drop, ← List.take_add]
      congr 2
      omega
    · rename_i hle
      rw [Nat.sub_eq_zero_of_le (Nat.not_lt.mp hle), List.take_zero, List.append_nil]
      exact (Except.ok.inj h).symm

/-- What a preparation that succeeds has found out. -/
theorem prepareVideoPlayback_eq_ok {sha256 : List UInt8 → String} {space : UserNamespace}
    {output : LocalStore.SavedVideoOutput} {preparing : Preparing} {player : Player}
    (h : prepareVideoPlayback sha256 space output preparing = .ok player) :
    (0 < output.sizeBytes ∧ output.sizeBytes ≤ 0x7FFFFFFFFFFFFFFF) ∧
      player.size = output.sizeBytes ∧ ∃ digest,
        digestTurns output.sizeBytes 0 [] preparing.turns = .ok digest ∧
        eqIgnoreAsciiCase (sha256 digest) output.sha256 = true := by
  obtain ⟨_, -, h⟩ := bind_eq_ok.mp h
  obtain ⟨_, -, h⟩ := bind_eq_ok.mp h
  obtain ⟨relative, -, h⟩ := bind_eq_ok.mp h
  obtain ⟨mime, -, h⟩ := bind_eq_ok.mp h
  obtain ⟨_, hreceipt, h⟩ := bind_eq_ok.mp h
  obtain ⟨key, -, h⟩ := bind_eq_ok.mp h
  obtain ⟨_, -, h⟩ := bind_eq_ok.mp h
  obtain ⟨⟨linkCount, byteSize⟩, -, h⟩ := bind_eq_ok.mp h
  obtain ⟨_, -, h⟩ := bind_eq_ok.mp h
  obtain ⟨digest, hdigest, h⟩ := bind_eq_ok.mp h
  obtain ⟨_, hsha, h⟩ := bind_eq_ok.mp h
  obtain ⟨_, -, h⟩ := bind_eq_ok.mp h
  obtain ⟨port, -, h⟩ := bind_eq_ok.mp h
  rw [checkReceipt, ensure_eq_ok] at hreceipt
  refine ⟨⟨hreceipt.1, hreceipt.2.1⟩, ?_, digest, hdigest, ensure_eq_ok.mp hsha⟩
  split at h
  · obtain ⟨_, -, h⟩ := bind_eq_ok.mp h
    obtain ⟨_, -, h⟩ := bind_eq_ok.mp h
    rw [← Except.ok.inj h]
  · contradiction

/-- While the file stays what it was, a request for the whole video that is answered in full brings
the bytes whose digest is in the receipt. -/
theorem prepared_plays_receipt {sha256 : List UInt8 → String} {space : UserNamespace}
    {output : LocalStore.SavedVideoOutput} {preparing : Preparing} {player : Player}
    {accepted : Accepted} {request : List UInt8}
    (hprepared : prepareVideoPlayback sha256 space output preparing = .ok player)
    (hpreparing : preparing.Holds file) (hholds : Holds file accepted.connection)
    (hread : (readVideoRequest [] accepted.reads).1 = .ok request)
    (hasks : player.Asks request true .media none)
    (hok : (serveVideoConnection player accepted.connection).1 = .ok ()) :
    ∃ headers body, (serveVideoConnection player accepted.connection).2.sent = headers ++ body ∧
      headers = asBytes (player.mediaHeaders 0 output.sizeBytes output.sizeBytes false) ∧
      body.length = output.sizeBytes ∧ eqIgnoreAsciiCase (sha256 body) output.sha256 = true := by
  obtain ⟨hsize, hplayer, digest, hdigest, hsha⟩ := prepareVideoPlayback_eq_ok hprepared
  have hbody := digestTurns_eq_ok hpreparing hdigest
  rw [List.nil_append, List.drop_zero, Nat.sub_zero] at hbody
  have hrange : videoRange none player.size = .ok (0, player.size, false) := by
    rw [videoRange, hplayer, ensure, if_pos hsize]
    rfl
  obtain ⟨hreceived, -⟩ := readVideoRequest_eq_ok_iff.mp hread
  have hreply := (Player.reply_media_iff hreceived).mpr ⟨none, hasks, hrange⟩
  rw [serveVideoConnection_of_request hread] at hok ⊢
  obtain ⟨-, ⟨-, hcomplete⟩, -⟩ := respond_emits (player.reply request)
    { accepted.connection with reads := (readVideoRequest [] accepted.connection.reads).2 } hholds
  refine ⟨_, digest, ?_, rfl, ?_, hsha⟩
  · rw [hcomplete () hok, hreply, hbody, ← hplayer]
    change [] ++ (asBytes (player.mediaHeaders 0 (0 + player.size) player.size false) ++
      (file.drop 0).take player.size) = _
    rw [List.nil_append, Nat.zero_add, List.drop_zero]
  · have hlength := length_digestTurns hdigest
    simpa using hlength

def shortSpace : UserNamespace where
  userPublicId := "00000000-0000-4000-8000-000000000001"
  root := ["data", "accounts", "00000000-0000-4000-8000-000000000001"]

def shortOutput : LocalStore.SavedVideoOutput where
  clientRequestId := "request"
  serverTaskId := "11111111-1111-4111-8111-111111111111"
  fileId := "22222222-2222-4222-8222-222222222222"
  billingAccountGroupId := "33333333-3333-4333-8333-333333333333"
  sha256 := "ca358758f6d27e6cf45272937977a748fd88391db679ceda7dc7bf1f005ee879"
  sizeBytes := 1
  sourcePath := "/data/accounts/00000000-0000-4000-8000-000000000001/videos/short.mp4"
  title := ""
  createdAt := ""

/-- The digest of the one byte of the video. -/
def shortDigest (bytes : List UInt8) : String :=
  if bytes = [7] then "ca358758f6d27e6cf45272937977a748fd88391db679ceda7dc7bf1f005ee879" else ""

def shortPreparing : Preparing where
  activity := true
  current := true
  admitted := true
  opened := fun _ => .ok (1, 1)
  turns := [⟨true, true, ⟨true, some (1, 1), some [7]⟩⟩]
  stillCurrent := true
  port := .ok 51234
  token := "0123456789abcdef0123456789abcdef"
  spawned := true
  template := ""

theorem prepared_short :
    prepareVideoPlayback shortDigest shortSpace shortOutput shortPreparing =
      .ok Player.shortPlayer := by
  rfl

theorem holds_shortPreparing : shortPreparing.Holds [7] := by
  intro turn hturn content hcontent
  obtain rfl := List.mem_singleton.mp hturn
  exact (Option.some.inj hcontent).symm

theorem asks_mediaRequest : Player.shortPlayer.Asks Player.mediaRequest true .media none := by
  obtain ⟨hreceived, -⟩ := readVideoRequest_eq_ok_iff.mp Player.read_mediaRequest
  have hreply : Player.shortPlayer.reply Player.mediaRequest = (true, .media 0 1 false) := rfl
  obtain ⟨_ | range, hasks, hrange⟩ := (Player.reply_media_iff hreceived).mp hreply
  · exact hasks
  · exact absurd (videoRange_some_eq_ok_iff_ends.mp hrange).1 Bool.false_ne_true

theorem prepared_plays_receipt_short : ∃ headers body,
    (serveVideoConnection Player.shortPlayer
      (faultlessAccepted Player.shortPlayer [7] Player.mediaRequest).connection).2.sent =
        headers ++ body ∧
      headers = asBytes (Player.shortPlayer.mediaHeaders 0 shortOutput.sizeBytes
        shortOutput.sizeBytes false) ∧
      body.length = shortOutput.sizeBytes ∧
      eqIgnoreAsciiCase (shortDigest body) shortOutput.sha256 = true := by
  obtain ⟨accepted, haccepted⟩ : ∃ accepted, accepted =
    faultlessAccepted Player.shortPlayer [7] Player.mediaRequest := ⟨_, rfl⟩
  have hfaultless := faultless_faultlessAccepted Player.shortPlayer [7] Player.mediaRequest
  have hreads : accepted.reads = Player.arriving Player.mediaRequest := by rw [haccepted]; rfl
  rw [← haccepted] at hfaultless ⊢
  have hread : (readVideoRequest [] accepted.reads).1 = .ok Player.mediaRequest := by
    rw [hreads, Player.read_mediaRequest]
  have hok : (serveVideoConnection Player.shortPlayer accepted.connection).1 = .ok () := by
    rw [serveVideoConnection_of_request hread]
    exact (respond_complete rfl (hfaultless.withReads _)).1
  exact prepared_plays_receipt prepared_short holds_shortPreparing hfaultless.holds hread
    asks_mediaRequest hok

end ArtForgeStudio.VideoPlayer
