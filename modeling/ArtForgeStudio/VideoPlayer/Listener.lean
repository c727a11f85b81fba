import ArtForgeStudio.VideoPlayer.Answers

/-! # The listener of a video

The listener takes one connection after the other until it is cancelled. What each of them receives is
a beginning of the answer to its own request, and the whole of it when nothing fails.
-/

namespace ArtForgeStudio.VideoPlayer

open ArtForgeStudio.Outcome ArtForgeStudio.Emissions

/-- A connection as it is accepted. -/
structure Accepted where
  loopback : Bool
  timeouts : Bool
  reads : List ReadTurn
  writes : List WriteTurn
  gates : List Bool
  sources : List SourceTurn

def Accepted.connection (accepted : Accepted) : Connection :=
  ⟨accepted.reads, accepted.writes, accepted.gates, accepted.sources, false, []⟩

inductive AcceptAnswer where
  | accepted (accepted : Accepted)
  | waiting
  | failed

/-- One turn of the loop of `run_video_listener`. -/
structure AcceptTurn where
  current : Bool
  answer : AcceptAnswer

/-- A connection that was served, with the outcome and what was sent. -/
structure Served where
  accepted : Accepted
  outcome : Except String Unit
  sent : List UInt8

/-- The connections that are served, until the listener is cancelled by others or by a piece of the
file that cannot be read. -/
def runVideoListener (player : Player) (cancel : Bool) : List AcceptTurn → List Served
  | [] => []
  | turn :: turns =>
    if cancel || !turn.current then []
    else
      match turn.answer with
      | .failed => []
      | .waiting => runVideoListener player cancel turns
      | .accepted accepted =>
        if accepted.loopback && accepted.timeouts then
          let (outcome, after) := serveVideoConnection player accepted.connection
          ⟨accepted, outcome, after.sent⟩ :: runVideoListener player after.cancel turns
        else runVideoListener player cancel turns

/-- An accepted connection from this machine is served. -/
theorem mem_runVideoListener {player : Player} {accepted : Accepted} {turns : List AcceptTurn}
    (h : (accepted.loopback && accepted.timeouts) = true) :
    ⟨accepted, (serveVideoConnection player accepted.connection).1,
        (serveVideoConnection player accepted.connection).2.sent⟩ ∈
      runVideoListener player false (⟨true, .accepted accepted⟩ :: turns) := by
  simp [runVideoListener, h]

/-- The bytes of the request are the first to arrive, and what was sent is a beginning of the answer
to it, all of it if the connection ends well; without a request nothing is sent. -/
def Served.Answered (player : Player) (file : List UInt8) (served : Served) : Prop :=
  (served.sent = [] ∧ ∃ error, served.outcome = .error error) ∨
    ∃ request used, used <+: served.accepted.reads ∧ Arrives used request ∧ Received request ∧
      served.sent <+: player.response file (player.reply request) ∧
      (served.outcome = .ok () → served.sent = player.response file (player.reply request))

variable {player : Player} {file : List UInt8} {accepted : Accepted} {turns : List AcceptTurn}
  {cancel : Bool}

theorem serveVideoConnection_of_request {request : List UInt8} {connection : Connection}
    (hread : (readVideoRequest [] connection.reads).1 = .ok request) :
    serveVideoConnection player connection = respond player (player.reply request)
      { connection with reads := (readVideoRequest [] connection.reads).2 } := by
  exact Program.bind_of_ok (Prod.ext hread rfl)

theorem serveVideoConnection_of_error {error : String} {connection : Connection}
    (hread : (readVideoRequest [] connection.reads).1 = .error error) :
    serveVideoConnection player connection =
      (.error error, { connection with reads := (readVideoRequest [] connection.reads).2 }) := by
  exact Program.bind_of_error (Prod.ext hread rfl)

theorem answered_of_serve (hholds : Holds file accepted.connection) :
    Served.Answered player file ⟨accepted, (serveVideoConnection player accepted.connection).1,
      (serveVideoConnection player accepted.connection).2.sent⟩ := by
  cases hread : (readVideoRequest [] accepted.connection.reads).1 with
  | error error =>
    rw [serveVideoConnection_of_error hread]
    exact .inl ⟨rfl, error, rfl⟩
  | ok request =>
    obtain ⟨hreceived, used, hused, harrives⟩ := readVideoRequest_eq_ok_iff.mp hread
    rw [serveVideoConnection_of_request hread]
    obtain ⟨-, ⟨⟨sent, hsent, hout⟩, hcomplete⟩, -⟩ := respond_emits (player.reply request)
      { accepted.connection with reads := (readVideoRequest [] accepted.connection.reads).2 } hholds
    refine .inr ⟨request, used, hused, harrives, hreceived, ?_, fun h => ?_⟩
    · dsimp only
      rw [hout]
      exact hsent
    · dsimp only
      rw [hcomplete () h]
      rfl

/-- What each connection was sent is a beginning of the answer to its own request, for a file that has
these bytes whenever it is read. -/
theorem runVideoListener_answered
    (hholds : ∀ turn ∈ turns, ∀ accepted, turn.answer = .accepted accepted →
      Holds file accepted.connection) :
    ∀ served ∈ runVideoListener player cancel turns, served.Answered player file := by
  induction turns generalizing cancel with
  | nil => simp [runVideoListener]
  | cons turn turns ih =>
    have hlater : ∀ cancel, ∀ served ∈ runVideoListener player cancel turns,
        served.Answered player file :=
      fun cancel => ih fun later hlater => hholds later (List.mem_cons_of_mem _ hlater)
    unfold runVideoListener
    split
    · simp
    split
    · simp
    · exact hlater _
    · rename_i accepted haccepted
      split
      · rintro served (_ | ⟨_, hmem⟩)
        · exact answered_of_serve (hholds turn List.mem_cons_self accepted haccepted)
        · exact hlater _ served hmem
      · exact hlater _

/-- The video is asked for and read in one piece, and the socket takes it in two turns. -/
def mediaAccepted : Accepted where
  loopback := true
  timeouts := true
  reads := Player.arriving Player.mediaRequest
  writes := [⟨true, false, some 1000⟩, ⟨true, false, some 1000⟩]
  gates := [true, true, true, true, true]
  sources := [⟨true, some (1, 1), some [7]⟩]

theorem holds_mediaAccepted : ∀ turn ∈ [AcceptTurn.mk true (.accepted mediaAccepted)],
    ∀ accepted, turn.answer = .accepted accepted → Holds [7] accepted.connection := by
  intro turn hturn accepted haccepted
  obtain rfl := List.mem_singleton.mp hturn
  obtain rfl := AcceptAnswer.accepted.inj haccepted
  intro source hsource content hcontent
  obtain rfl := List.mem_singleton.mp hsource
  exact (Option.some.inj hcontent).symm

theorem runVideoListener_answers_media :
    Served.Answered Player.shortPlayer [7]
      ⟨mediaAccepted, (serveVideoConnection Player.shortPlayer mediaAccepted.connection).1,
        (serveVideoConnection Player.shortPlayer mediaAccepted.connection).2.sent⟩ :=
  runVideoListener_answered holds_mediaAccepted _ (mem_runVideoListener rfl)

/-- For `n` turns nothing fails: the socket takes bytes in time, the account is current, and the file
is what it was. -/
structure Faultless (file : List UInt8) (n : ℕ) (connection : Connection) : Prop where
  writes : n ≤ connection.writes.length
  write : ∀ turn ∈ connection.writes, turn.current = true ∧ turn.late = false ∧
    ∃ more, turn.written = some (more + 1)
  gates : n ≤ connection.gates.length
  gate : ∀ admitted ∈ connection.gates, admitted = true
  sources : n ≤ connection.sources.length
  source : ∀ turn ∈ connection.sources, turn = ⟨true, some (1, file.length), some file⟩

variable {n m : ℕ} {connection : Connection}

theorem Faultless.mono (h : Faultless file n connection) (hle : m ≤ n) :
    Faultless file m connection :=
  ⟨hle.trans h.writes, h.write, hle.trans h.gates, h.gate, hle.trans h.sources, h.source⟩

theorem Faultless.withReads (h : Faultless file n connection) (reads : List ReadTurn) :
    Faultless file n { connection with reads := reads } :=
  ⟨h.writes, h.write, h.gates, h.gate, h.sources, h.source⟩

theorem Faultless.holds (h : Faultless file n connection) : Holds file connection := by
  intro turn hturn content hcontent
  rw [h.source turn hturn] at hcontent
  exact (Option.some.inj hcontent).symm

theorem ensureGate_finishes {error : String} :
    Finishes (Faultless file) 1 (fun _ => True) (ensureGate error) := by
  intro n connection h
  unfold ensureGate
  split
  · rename_i hgates
    have hlength := h.gates
    rw [hgates, List.length_nil] at hlength
    omega
  · rename_i admitted gates hgates
    have hgate := h.gate
    have hlength := h.gates
    rw [hgates] at hgate hlength
    rw [List.length_cons] at hlength
    refine ⟨(), ?_, trivial, ?_⟩
    · rw [hgate admitted List.mem_cons_self, ensure, if_pos rfl]
    · exact ⟨(Nat.le_succ n).trans h.writes, h.write, by dsimp only; omega,
        fun later hlater => hgate later (List.mem_cons_of_mem _ hlater),
        (Nat.le_succ n).trans h.sources, h.source⟩

theorem lift_finishes {α : Type} {a : α} {result : Except String α} (h : result = .ok a) :
    Finishes (Faultless file) 0 (fun b => b = a) (lift result) :=
  fun _ _ hready => ⟨a, h, rfl, hready⟩

/-- A turn takes at least one byte. -/
theorem writeTurns_finishes {checked : Bool} {bytes : List UInt8} {turns : List WriteTurn}
    (hturns : ∀ turn ∈ turns, turn.current = true ∧ turn.late = false ∧
      ∃ more, turn.written = some (more + 1)) (hlength : n + bytes.length ≤ turns.length) :
    (writeTurns checked bytes turns).1 = .ok () ∧
      n ≤ (writeTurns checked bytes turns).2.1.length ∧
      (writeTurns checked bytes turns).2.1 <:+ turns := by
  induction turns generalizing bytes with
  | nil =>
    obtain rfl : bytes = [] := by
      rw [List.length_nil] at hlength
      exact List.eq_nil_of_length_eq_zero (by omega)
    simp only [writeTurns, if_true, true_and, List.suffix_rfl, and_true]
    exact (Nat.le_add_right n _).trans hlength
  | cons turn turns ih =>
    obtain ⟨⟨hcurrent, hlate, more, hwritten⟩, hrest⟩ := List.forall_mem_cons.mp hturns
    unfold writeTurns
    split
    · exact ⟨rfl, (Nat.le_add_right n _).trans hlength, List.suffix_rfl⟩
    · rename_i hne
      have hpos := List.length_pos_of_ne_nil hne
      simp only [hcurrent, Bool.not_true, Bool.and_false, Bool.false_eq_true, if_false, hlate, hwritten]
      have hleft : n + (bytes.drop (more + 1)).length ≤ turns.length := by
        rw [List.length_drop]
        rw [List.length_cons] at hlength
        omega
      obtain ⟨hok, hmany, hsuffix⟩ := ih hrest hleft
      exact ⟨hok, hmany, hsuffix.trans (List.suffix_cons ..)⟩

theorem writeVideoBytes_finishes {checked : Bool} {bytes : List UInt8} :
    Finishes (Faultless file) bytes.length (fun _ => True) (writeVideoBytes checked bytes) := by
  intro n connection h
  obtain ⟨hok, hmany, hsuffix⟩ : (writeTurns checked bytes connection.writes).1 = .ok () ∧ _ :=
    writeTurns_finishes h.write h.writes
  refine ⟨(), hok, trivial, hmany, fun turn hturn => h.write turn (hsuffix.subset hturn), ?_, h.gate,
    ?_, h.source⟩
  · exact (Nat.le_add_right n _).trans h.gates
  · exact (Nat.le_add_right n _).trans h.sources

theorem readChunk_finishes {offset count : ℕ} (hcount : count ≤ videoStreamChunk)
    (hin : offset + count ≤ file.length) :
    Finishes (Faultless file) 1 (fun bytes => bytes = (file.drop offset).take count)
      (readChunk file.length offset count) := by
  intro n connection h
  unfold readChunk
  rw [if_pos ⟨hcount, by omega, by omega⟩]
  split
  · rename_i hsources
    have hlength := h.sources
    rw [hsources, List.length_nil] at hlength
    omega
  · rename_i turn sources hsources
    have hsource := h.source
    have hlength := h.sources
    rw [hsources] at hsource hlength
    rw [List.length_cons] at hlength
    refine ⟨_, ?_, rfl, ?_⟩
    · rw [hsource turn List.mem_cons_self]
      simp [sourceBytes, ensure, ok_bind, hin]
    · exact ⟨(Nat.le_succ n).trans h.writes, h.write, (Nat.le_succ n).trans h.gates, h.gate,
        by dsimp only; omega, fun later hlater => hsource later (List.mem_cons_of_mem _ hlater)⟩

theorem serveBody_finishes (hsize : player.size = file.length) (offset finish : ℕ)
    (hin : finish ≤ file.length) :
    Finishes (Faultless file) (5 * (finish - offset)) (fun _ => True)
      (serveBody player offset finish) := by
  unfold serveBody
  split
  · rename_i hlt
    have hpos : 0 < videoStreamChunk := by decide
    obtain ⟨count, hcount⟩ : ∃ count, count = min (finish - offset) videoStreamChunk := ⟨_, rfl⟩
    have hone : 0 < count := by
      rw [hcount]
      exact lt_min (Nat.sub_pos_of_lt hlt) hpos
    have hcost : 5 * (finish - (offset + count)) + count + 1 + 1 + 1 + 1 ≤ 5 * (finish - offset) := by
      omega
    refine Finishes.mono ?_ hcost fun _ _ _ hle h => h.mono hle
    have hchunk : Finishes (Faultless file) 1 (fun bytes => bytes = (file.drop offset).take count)
        ((readChunk file.length offset count).onError Connection.store) :=
      (readChunk_finishes (by omega) (by omega)).onError
    rw [hsize, ← hcount]
    refine ensureGate_finishes.bind fun _ _ => ensureGate_finishes.bind fun _ _ => ?_
    refine hchunk.bind fun bytes hbytes => ensureGate_finishes.bind fun _ _ => ?_
    have hlength : bytes.length = count := by
      rw [hbytes, List.length_take, List.length_drop]
      omega
    rw [← hlength]
    refine writeVideoBytes_finishes.bind fun _ _ => ?_
    rw [hlength]
    exact serveBody_finishes hsize (offset + count) finish hin
  · exact (Finishes.pure trivial).mono (Nat.zero_le _) fun _ _ _ hle h => h.mono hle
termination_by finish - offset
decreasing_by omega

theorem writeBody_finishes {bytes : List UInt8} {get : Bool} :
    Finishes (Faultless file) (if get then bytes else []).length (fun _ => True)
      (if get then writeVideoBytes true bytes else pure ()) := by
  cases get
  · exact Finishes.pure trivial
  · exact writeVideoBytes_finishes

theorem servePage_finishes {get preview : Bool} :
    Finishes (Faultless file) (5 * (player.response file (get, .page preview)).length + 2)
      (fun _ => True) (servePage player get preview) := by
  obtain ⟨body, hbody⟩ : ∃ body, body = asBytes (playerHtml player.template
    (localVideoUrl player.port player.token "media") preview) := ⟨_, rfl⟩
  have hlength : (player.response file (get, .page preview)).length =
      (asBytes (Player.pageHeaders body.length)).length + (if get then body else []).length := by
    rw [hbody, ← List.length_append]
    rfl
  have hcost : (if get then body else []).length + (asBytes (Player.pageHeaders body.length)).length +
      1 + 1 + 0 ≤ 5 * (player.response file (get, .page preview)).length + 2 := by
    omega
  refine Finishes.mono ?_ hcost fun _ _ _ hle h => h.mono hle
  refine (lift_finishes (validatedLocalVideoUrl_media player)).bind fun mediaUrl hurl => ?_
  dsimp only
  rw [hurl, ← hbody]
  refine ensureGate_finishes.bind fun _ _ => ensureGate_finishes.bind fun _ _ => ?_
  exact writeVideoBytes_finishes.bind fun _ _ => writeBody_finishes

theorem serveMedia_finishes {get part : Bool} {start length : ℕ} (hsize : player.size = file.length)
    (hin : start + length ≤ file.length) (hbound : start + length < u64Bound) :
    Finishes (Faultless file)
      (5 * (player.response file (get, .media start length part)).length + 2) (fun _ => True)
      (serveMedia player get start length part) := by
  have hfinish : rangeEnd player.size start length = .ok (start + length) := by
    rw [rangeEnd, checkedAdd, if_pos hbound, Option.filter_some, if_pos (by simpa [hsize] using hin)]
  obtain ⟨headers, hheaders⟩ : ∃ headers, headers =
    asBytes (player.mediaHeaders start (start + length) length part) := ⟨_, rfl⟩
  have hlength : (player.response file (get, .media start length part)).length =
      headers.length + if get then length else 0 := by
    have hbody : ((file.drop start).take length).length = length := by
      rw [List.length_take, List.length_drop]
      omega
    rw [hheaders]
    cases get
    · exact List.length_append.trans rfl
    · exact List.length_append.trans (by rw [if_pos rfl, hbody, if_pos rfl])
  have hcost : (if get then 5 * (start + length - start) else 0) + headers.length + 1 + 1 + 0 ≤
      5 * (player.response file (get, .media start length part)).length + 2 := by
    rw [hlength]
    split <;> omega
  refine Finishes.mono ?_ hcost fun _ _ _ hle h => h.mono hle
  refine (lift_finishes hfinish).bind fun finish hend => ?_
  rw [hend, ← hheaders]
  refine ensureGate_finishes.bind fun _ _ => ensureGate_finishes.bind fun _ _ => ?_
  refine writeVideoBytes_finishes.bind fun _ _ => ?_
  cases get
  · exact Finishes.pure trivial
  · exact serveBody_finishes hsize start (start + length) hin

theorem videoRange_in_size {range : Option (List Char)} {size start length : ℕ} {part : Bool}
    (h : videoRange range size = .ok (start, length, part)) :
    start + length ≤ size ∧ start + length < u64Bound := by
  unfold u64Bound
  cases range with
  | none =>
    obtain ⟨_, hsize, h⟩ := bind_eq_ok.mp h
    rw [ensure_eq_ok] at hsize
    obtain ⟨rfl, hlength, -⟩ := Prod.mk.inj (Except.ok.inj h) |>.imp_right Prod.mk.inj
    omega
  | some value =>
    obtain ⟨-, hpos, hmax, upper, hlength, first, last, -, hends, -, hle⟩ :=
      videoRange_some_eq_ok_iff_ends.mp h
    have hupper := rangeEnds_upper_lt hpos hends
    omega

/-- A part of the video that is answered lies in the video. -/
theorem reply_media_in_size {request : List UInt8} {get part : Bool} {start length : ℕ}
    (h : player.reply request = (get, .media start length part)) :
    start + length ≤ player.size ∧ start + length < u64Bound := by
  unfold Player.reply at h
  dsimp only at h
  split at h
  · simp at h
  split at h
  · simp at h
  split at h
  · simp at h
  split at h
  · split at h <;> simp at h
  · split at h
    · rename_i hrange
      obtain ⟨rfl, rfl, rfl⟩ := Player.Reply.media.inj (Prod.mk.inj h).2
      exact videoRange_in_size hrange
    · simp at h

theorem respond_finishes (hsize : player.size = file.length) (request : List UInt8) :
    Finishes (Faultless file) (5 * (player.response file (player.reply request)).length + 2)
      (fun _ => True) (respond player (player.reply request)) := by
  cases hreply : player.reply request with
  | mk get reply =>
    cases reply with
    | rejected code size =>
      refine Finishes.mono writeVideoBytes_finishes ?_ fun _ _ _ hle h => h.mono hle
      change (asBytes (Player.emptyHeaders code size)).length ≤
        5 * (asBytes (Player.emptyHeaders code size)).length + 2
      omega
    | page preview => exact servePage_finishes
    | media start length part =>
      obtain ⟨hin, hbound⟩ := reply_media_in_size hreply
      exact serveMedia_finishes hsize (hsize ▸ hin) hbound

theorem respond_complete {request : List UInt8} (hsize : player.size = file.length)
    (h : Faultless file (5 * (player.response file (player.reply request)).length + 2) connection) :
    (respond player (player.reply request) connection).1 = .ok () ∧
      (respond player (player.reply request) connection).2.sent =
        connection.sent ++ player.response file (player.reply request) := by
  have hholds := h.holds
  rw [← Nat.zero_add (5 * _ + 2)] at h
  obtain ⟨_, hok, -, -⟩ := respond_finishes hsize request 0 connection h
  obtain ⟨-, ⟨-, hcomplete⟩, -⟩ := respond_emits (player.reply request) connection hholds
  exact ⟨hok, hcomplete () hok⟩

/-- A request that arrives is answered in full when nothing fails. -/
theorem serveVideoConnection_complete {request : List UInt8} {used : List ReadTurn}
    (hsize : player.size = file.length) (hreceived : Received request)
    (hused : used <+: accepted.reads) (harrives : Arrives used request)
    (h : Faultless file (5 * (player.response file (player.reply request)).length + 2)
      accepted.connection) :
    (serveVideoConnection player accepted.connection).1 = .ok () ∧
      (serveVideoConnection player accepted.connection).2.sent =
        player.response file (player.reply request) := by
  have hread : (readVideoRequest [] accepted.connection.reads).1 = .ok request :=
    readVideoRequest_eq_ok_iff.mpr ⟨hreceived, used, hused, harrives⟩
  rw [serveVideoConnection_of_request hread]
  exact respond_complete hsize (h.withReads _)

/-- Enough turns without a fault for the answer to a request. -/
def faultlessAccepted (player : Player) (file request : List UInt8) : Accepted :=
  let turns := 5 * (player.response file (player.reply request)).length + 2
  { loopback := true
    timeouts := true
    reads := Player.arriving request
    writes := List.replicate turns ⟨true, false, some 1⟩
    gates := List.replicate turns true
    sources := List.replicate turns ⟨true, some (1, file.length), some file⟩ }

theorem faultless_faultlessAccepted (player : Player) (file request : List UInt8) :
    Faultless file (5 * (player.response file (player.reply request)).length + 2)
      (faultlessAccepted player file request).connection := by
  constructor <;> simp [faultlessAccepted, Accepted.connection]

/-- The listener of a video that is read in two pieces. -/
def longPlayer : Player := { Player.shortPlayer with size := videoStreamChunk + 1 }

def longFile : List UInt8 := List.replicate (videoStreamChunk + 1) 7

theorem reply_longPlayer :
    longPlayer.reply Player.mediaRequest = (true, .media 0 (videoStreamChunk + 1) false) := by
  rfl

theorem serveVideoConnection_complete_media :
    (serveVideoConnection longPlayer
        (faultlessAccepted longPlayer longFile Player.mediaRequest).connection).2.sent =
      longPlayer.response longFile (true, .media 0 (videoStreamChunk + 1) false) := by
  obtain ⟨hreceived, -⟩ := readVideoRequest_eq_ok_iff.mp Player.read_mediaRequest
  obtain ⟨-, hsent⟩ := serveVideoConnection_complete
    (show longPlayer.size = longFile.length from List.length_replicate.symm) hreceived
    List.prefix_rfl (Player.arrives_arriving _) (faultless_faultlessAccepted _ _ _)
  rw [hsent, reply_longPlayer]

end ArtForgeStudio.VideoPlayer
