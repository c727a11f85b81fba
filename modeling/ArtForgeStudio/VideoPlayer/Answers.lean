import ArtForgeStudio.Library.Segments
import ArtForgeStudio.VideoPlayer.Serving

/-! # Answers of the video player

Which requests the player answers with its page or with a part of its video, and what every
connection of a listener receives.
-/

namespace ArtForgeStudio.VideoPlayer

open ArtForgeStudio.Api ArtForgeStudio.Outcome ArtForgeStudio.Emissions

namespace Player

variable {player : Player} {first : List Char} {get : Bool} {route : Route} {request : List UInt8}

def requestLine (player : Player) (get : Bool) (route : Route) : List Char :=
  (if get then "GET" else "HEAD").toList ++ ' ' :: ((player.path route).toList ++
    ' ' :: "HTTP/1.1".toList)

/-- What a request has to be in order to be answered from its route. -/
structure Asks (player : Player) (request : List UInt8) (get : Bool) (route : Route)
    (range : Option String) : Prop where
  lines : ∃ lines,
    splitLines (asciiText request) = player.requestLine get route :: (lines ++ [[], []]) ∧
    [] ∉ lines ∧ WellFormed lines ⟨some ("127.0.0.1:" ++ toString player.port), range⟩

theorem path_injective : Function.Injective player.path := by
  intro a b h
  have hlength := congrArg String.length h
  have behind {start : String} {n : Nat} (hstart : start.length = n) :
      (start ++ player.token).length = n + player.token.length := by
    rw [String.length_append, hstart]
  have hmedia : (player.path .media).length = 7 + player.token.length := behind (by decide)
  have hpage : (player.path (.page false)).length = 8 + player.token.length := behind (by decide)
  have hpreview : (player.path (.page true)).length = 16 + player.token.length :=
    behind (by decide)
  rcases a with _ | _ | _ <;> rcases b with _ | _ | _ <;> first | rfl | omega

theorem not_mem_path : ' ' ∉ (player.path route).toList := by
  have htoken : ' ' ∉ player.token.toList := by
    intro hspace
    have hhex := List.all_eq_true.mp player.token_hex ' ' hspace
    revert hhex
    decide
  have behind {start : String} (hstart : ' ' ∉ start.toList) :
      ' ' ∉ (start ++ player.token).toList := by
    rw [String.toList_append, List.mem_append]
    exact not_or_intro hstart htoken
  rcases route with _ | _ | _
  · exact behind (by decide)
  · exact behind (by decide)
  · exact behind (by decide)

theorem splitOn_eq_three_iff {a b c : List Char} (ha : ' ' ∉ a) (hb : ' ' ∉ b) (hc : ' ' ∉ c) :
    first.splitOn ' ' = [a, b, c] ↔ first = a ++ ' ' :: (b ++ ' ' :: c) := by
  have hjoin : [' '].intercalate [a, b, c] = a ++ ' ' :: (b ++ ' ' :: c) := by
    simp [List.intercalate]
  constructor
  · intro h
    rw [← hjoin, ← h, List.intercalate_splitOn]
  · intro h
    rw [h, ← hjoin, List.splitOn_intercalate]
    · simpa using ⟨ha, hb, hc⟩
    · simp

/-- The route that a path belongs to. -/
def routeOf (player : Player) (path : String) : Route :=
  if path = player.path (.page false) ∨ path = player.path (.page true) then
    .page (path = player.path (.page true))
  else .media

theorem routeOf_path : player.routeOf (player.path route) = route := by
  simp only [routeOf, player.path_injective.eq_iff]
  rcases route with _ | _ | _ <;> simp

theorem exists_path_iff {path : String} : (path = player.path .media ∨
    path = player.path (.page false) ∨ path = player.path (.page true)) ↔
      ∃ route, path = player.path route := by
  constructor
  · rintro (h | h | h)
    exacts [⟨_, h⟩, ⟨_, h⟩, ⟨_, h⟩]
  · rintro ⟨_ | _ | _, h⟩
    exacts [.inl h, .inr (.inl h), .inr (.inr h)]

theorem route_eq_some_iff : player.route first = some (get, route) ↔
    first = player.requestLine get route := by
  have hmethod : ∀ get : Bool, ' ' ∉ (if get then "GET" else "HEAD").toList := by decide
  have hversion : ' ' ∉ "HTTP/1.1".toList := by decide
  rw [requestLine, ← splitOn_eq_three_iff (hmethod get) not_mem_path hversion]
  constructor
  · intro h
    unfold Player.route at h
    split at h
    · rename_i method path version hthree
      split at h
      · rename_i hknown
        obtain ⟨hmethod, hpath, rfl⟩ := hknown
        obtain ⟨rfl, hroute⟩ := Prod.mk.inj (Option.some.inj h)
        obtain ⟨route', rfl⟩ := exists_path_iff.mp hpath
        have hsame : route' = route := (player.routeOf_path).symm.trans hroute
        have hid : String.toList ∘ String.ofList = id := funext fun _ => String.toList_ofList
        have htexts := congrArg (List.map String.toList) hthree
        simp only [List.map_map, List.map_cons, List.map_nil, hid, List.map_id] at htexts
        rw [htexts, ← hsame]
        rcases hmethod with rfl | rfl <;> rfl
      · contradiction
    · contradiction
  · intro h
    rw [Player.route, h]
    simp only [List.map_cons, List.map_nil, String.ofList_toList]
    have hknown : ((if get then "GET" else "HEAD") = "GET" ∨
        (if get then "GET" else "HEAD") = "HEAD") ∧
        (player.path route = player.path .media ∨ player.path route = player.path (.page false) ∨
          player.path route = player.path (.page true)) ∧ True := by
      refine ⟨?_, exists_path_iff.mpr ⟨route, rfl⟩, trivial⟩
      cases get <;> simp
    rw [if_pos hknown]
    have hget : decide ((if get then "GET" else "HEAD") = "GET") = get := by
      cases get <;> simp
    rw [hget]
    exact congrArg (fun route => some (get, route)) player.routeOf_path

theorem takeWhile_lines {lines : List (List Char)} (h : [] ∉ lines) :
    (lines ++ [[], []]).takeWhile (· ≠ []) = lines := by
  have hall : ∀ line ∈ lines, decide (line ≠ []) = true := by
    intro line hline
    exact decide_eq_true fun hnil => h (hnil ▸ hline)
  rw [List.takeWhile_append_of_pos hall]
  simp

/-- The fields that the loop finds are those of a well-formed request. -/
theorem asks_iff {lines : List (List Char)} {range : Option String}
    (hlines : splitLines (asciiText request) = first :: (lines ++ [[], []])) (hnil : [] ∉ lines) :
    player.Asks request get route range ↔ player.route first = some (get, route) ∧
      readFields ⟨none, none⟩ 0 lines = some ⟨some ("127.0.0.1:" ++ toString player.port), range⟩ := by
  rw [route_eq_some_iff, readFields_eq_some_iff]
  constructor
  · rintro ⟨others, hothers, -, hformed⟩
    rw [hlines, List.cons.injEq, List.append_left_inj] at hothers
    obtain ⟨rfl, rfl⟩ := hothers
    exact ⟨rfl, hformed⟩
  · rintro ⟨rfl, hformed⟩
    exact ⟨lines, hlines, hnil, hformed⟩

theorem reply_page_iff {preview : Bool} (h : Received request) :
    player.reply request = (get, .page preview) ↔ player.Asks request get (.page preview) none := by
  obtain ⟨first, lines, hlines, hnil⟩ := exists_lines h
  rw [asks_iff hlines hnil]
  simp only [reply, hlines, List.headD_cons, List.tail_cons, takeWhile_lines hnil]
  cases hroute : player.route first with
  | none => simp
  | some asked =>
    obtain ⟨get', route⟩ := asked
    cases hfields : readFields ⟨none, none⟩ 0 lines with
    | none => simp
    | some fields =>
      obtain ⟨host, range⟩ := fields
      by_cases hhost : host = some ("127.0.0.1:" ++ toString player.port)
      · subst hhost
        cases route with
        | page preview => cases range <;> simp
        | media =>
          cases hrange : videoRange (range.map String.toList) player.size with
          | error error => simp [hrange]
          | ok found => simp [hrange]
      · simp only [ne_eq, hhost, not_false_eq_true, if_true, Prod.mk.injEq, reduceCtorEq, and_false,
          Option.some.injEq, Fields.mk.injEq, false_and]

theorem reply_media_iff {start length : Nat} {part : Bool} (h : Received request) :
    player.reply request = (get, .media start length part) ↔
      ∃ range, player.Asks request get .media range ∧
        videoRange (range.map String.toList) player.size = .ok (start, length, part) := by
  obtain ⟨first, lines, hlines, hnil⟩ := exists_lines h
  simp only [asks_iff hlines hnil]
  simp only [reply, hlines, List.headD_cons, List.tail_cons, takeWhile_lines hnil]
  cases hroute : player.route first with
  | none => simp
  | some asked =>
    obtain ⟨get', route⟩ := asked
    cases hfields : readFields ⟨none, none⟩ 0 lines with
    | none => simp
    | some fields =>
      obtain ⟨host, range⟩ := fields
      by_cases hhost : host = some ("127.0.0.1:" ++ toString player.port)
      · subst hhost
        cases route with
        | page preview => cases range <;> simp
        | media =>
          cases hrange : videoRange (range.map String.toList) player.size with
          | error error => simp +contextual [hrange]
          | ok found =>
            obtain ⟨first, length, part⟩ := found
            simp [hrange]
      · simp only [ne_eq, hhost, not_false_eq_true, if_true, Prod.mk.injEq, reduceCtorEq, and_false,
          Option.some.injEq, Fields.mk.injEq, false_and, exists_false]

/-- A page is answered to a well-formed request for it without a range, and a part of the video to
one for the video whose range can be met. Everything else is rejected. -/
theorem reply_accepts_iff (h : Received request) (get : Bool) :
    (∀ preview, player.reply request = (get, .page preview) ↔
      player.Asks request get (.page preview) none) ∧
    (∀ start length part, player.reply request = (get, .media start length part) ↔
      ∃ range, player.Asks request get .media range ∧
        videoRange (range.map String.toList) player.size = .ok (start, length, part)) :=
  ⟨fun _ => reply_page_iff h, fun _ _ _ => reply_media_iff h⟩

/-- The listener of a video of one byte. -/
def shortPlayer : Player :=
  ⟨"0123456789abcdef0123456789abcdef", 51234, "video/mp4", 1, "", by decide, by decide, by decide⟩

def textBytes (text : String) : List UInt8 := text.toList.map fun c => c.toNat.toUInt8

def pageRequest : List UInt8 :=
  textBytes "HEAD /player/0123456789abcdef0123456789abcdef HTTP/1.1\r\nHost: 127.0.0.1:51234\r\n\r\n"

def mediaRequest : List UInt8 :=
  textBytes "GET /media/0123456789abcdef0123456789abcdef HTTP/1.1\r\nHost: 127.0.0.1:51234\r\n\r\n"

/-- Turns that bring these bytes. -/
def arriving (bytes : List UInt8) : List ReadTurn := bytes.map fun b => ⟨false, .byte b⟩

theorem arrives_arriving (bytes : List UInt8) : Arrives (arriving bytes) bytes := by
  induction bytes with
  | nil => exact .nil
  | cons b bytes ih => exact .byte b ih

set_option maxRecDepth 4000 in
theorem received_pageRequest : Received pageRequest :=
  (readVideoRequest_eq_ok_iff.mp (rfl : (readVideoRequest [] (arriving pageRequest)).1 = _)).1

set_option maxRecDepth 4000 in
theorem read_mediaRequest :
    (readVideoRequest [] (arriving mediaRequest)).1 = .ok mediaRequest := by
  rfl

theorem reply_accepts_pageRequest : shortPlayer.Asks pageRequest false (.page false) none :=
  ((reply_accepts_iff received_pageRequest false).1 false).mp rfl

end Player

end ArtForgeStudio.VideoPlayer
