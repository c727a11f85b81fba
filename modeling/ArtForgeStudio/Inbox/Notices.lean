import ArtForgeStudio.Api.Wire
import ArtForgeStudio.LocalStore.Data
import Mathlib.Data.List.Infix
import Mathlib.Data.List.Nodup

/-! # Notices

The notices of an account as the server sends them and as the client keeps them, and the schedule by
which the client asks for announcements.
-/

namespace ArtForgeStudio.Inbox

open ArtForgeStudio.Api ArtForgeStudio.LocalStore

/-- `Value::get` of a key -/
def member (key : String) : Json → Option Json
  | .obj members => (members.find? (·.1 = key)).map (·.2)
  | _ => none

/-- `and_then(Value::as_str)` -/
def textMember (key : String) (value : Json) : Option String :=
  match member key value with
  | some (.str text) => some text
  | _ => none

structure ServerNotification where
  id : String
  notificationType : String
  title : String
  body : String
  metadata : Json
  createdAt : String
  readAt : Option String

/-- What the client takes from `chrono`: the local time that is shown, and the instant of an expiry. -/
structure Clock where
  notificationTime : String → Option String
  instant : String → Option Int

def failureMarkers : List String :=
  ["failed", "failure", "error", "expired", "cancelled", "canceled", "rejected"]

def failureWords : List String := ["失败", "未完成", "错误", "已取消", "已过期"]

def hasFailureMarker (value : String) : Bool :=
  let lower := value.toList.map Char.toLower
  failureMarkers.any (fun marker => marker.toList <:+: lower) ||
    failureWords.any fun marker => marker.toList <:+: value.toList

def notificationIsSuccess (item : ServerNotification) : Bool :=
  if hasFailureMarker item.notificationType || hasFailureMarker item.title then false
  else !(["status", "task_status", "result", "outcome"].filterMap fun key =>
    textMember key item.metadata).any hasFailureMarker

def notificationDisplayModel (item : ServerNotification) : String :=
  match textMember "task_type" item.metadata with
  | some "image_upscale" => "图片清晰"
  | some "image_watermark_removal" => "去水印"
  | some "image_cutout" => "智能抠图"
  | some "image_colorization" => "老照片上色"
  | _ =>
    match (member "model_name" item.metadata).or (member "model_code" item.metadata) with
    | some (.str name) => name
    | _ => ""

def formatNotificationTime (clock : Clock) (value : String) : String :=
  (clock.notificationTime value).getD value

def notificationData (clock : Clock) (item : ServerNotification) : NotificationData :=
  let announcement := item.notificationType = "system.announcement"
  { id := item.id
    title := item.title
    model := notificationDisplayModel item
    time := formatNotificationTime clock item.createdAt
    reason := item.body
    success := announcement || notificationIsSuccess item
    read := item.readAt.isSome
    announcement := announcement }

def announcementIsEligible (clock : Clock) (item : ServerNotification) (now : Int) : Bool :=
  item.notificationType = "system.announcement" && item.readAt.isNone &&
    textMember "importance" item.metadata = some "important" &&
    (match member "revoked_at" item.metadata with
      | none | some .null => true
      | some _ => false) &&
    ((textMember "expires_at" item.metadata).bind clock.instant).any (now < ·)

structure AnnouncementSchedule where
  interval : Nat
  nextDue : Option Nat
  inFlight : Bool

namespace AnnouncementSchedule

/-- Seconds of a `SystemTime`. -/
def timeBound : Nat := 0x8000000000000000

def checkedAdd (now seconds : Nat) : Option Nat :=
  if now + seconds < timeBound then some (now + seconds) else none

def new (deviceId : List UInt8) : AnnouncementSchedule where
  interval := 1800 + deviceId.foldl (fun hash byte =>
    (hash * 31 + byte.toNat) % 0x10000000000000000) 0 % 61
  nextDue := none
  inFlight := false

variable (schedule : AnnouncementSchedule)

def due (now : Nat) : Bool :=
  !schedule.inFlight && schedule.nextDue.all (· ≤ now)

def started (now : Nat) : AnnouncementSchedule :=
  { schedule with inFlight := true, nextDue := checkedAdd now schedule.interval }

def finished (success : Bool) (now : Nat) : AnnouncementSchedule :=
  { schedule with
    inFlight := false
    nextDue := if success then schedule.nextDue else checkedAdd now 60 }

def reset : AnnouncementSchedule := { schedule with nextDue := none, inFlight := false }

end AnnouncementSchedule

inductive NotificationAction where
  | read (id : String)
  | readAll
  | delete (id : String)
  | clear
deriving DecidableEq

/-- The first notice that has the id is changed. -/
def updateFirst (id : String) (f : NotificationData → NotificationData) :
    List NotificationData → List NotificationData
  | [] => []
  | notice :: notices =>
    if notice.id = id then f notice :: notices else notice :: updateFirst id f notices

def markRead (notice : NotificationData) : NotificationData := { notice with read := true }

def NotificationAction.apply : NotificationAction → List NotificationData → List NotificationData
  | .read id, notices => updateFirst id markRead notices
  | .readAll, notices => notices.map markRead
  | .delete id, notices => notices.filter (·.id ≠ id)
  | .clear, _ => []

/-- Notices of a page go behind the ones that are there. -/
def pushNew (notices : List NotificationData) (item : NotificationData) : List NotificationData :=
  if notices.any (·.id = item.id) then notices else notices ++ [item]

def applyPage (clock : Clock) (append : Bool) (items : List ServerNotification)
    (notices : List NotificationData) : List NotificationData :=
  (items.map (notificationData clock)).foldl pushNew (if append then notices else [])

/-- An announcement takes the place of its notice, which stays read, or goes before all. -/
def mergeAnnouncement (clock : Clock) (notices : List NotificationData)
    (item : ServerNotification) : List NotificationData :=
  let data := notificationData clock item
  if notices.any (·.id = data.id) then
    updateFirst data.id (fun existing => { data with read := data.read || existing.read }) notices
  else data :: notices

def mergeAnnouncements (clock : Clock) (items : List ServerNotification)
    (notices : List NotificationData) : List NotificationData :=
  items.foldl (mergeAnnouncement clock) notices

def Unique (notices : List NotificationData) : Prop := (notices.map (·.id)).Nodup

section Unique

variable {id : String} {f : NotificationData → NotificationData} {clock : Clock} {append : Bool}
  {notice item : NotificationData} {notices : List NotificationData}
  {items : List ServerNotification} {action : NotificationAction}

theorem map_id_updateFirst (hf : ∀ notice, notice.id = id → (f notice).id = id) :
    (updateFirst id f notices).map (·.id) = notices.map (·.id) := by
  induction notices with
  | nil => rfl
  | cons notice notices ih =>
    rw [updateFirst]
    split
    · rename_i hid
      simp [hf notice hid, hid]
    · simp [ih]

theorem any_id_iff : notices.any (·.id = id) = true ↔ id ∈ notices.map (·.id) := by
  simp

theorem Unique.updateFirst (h : Unique notices)
    (hf : ∀ notice, notice.id = id → (f notice).id = id) : Unique (updateFirst id f notices) := by
  rw [Unique, map_id_updateFirst hf]
  exact h

theorem Unique.apply (h : Unique notices) : Unique (action.apply notices) := by
  cases action with
  | read id => exact h.updateFirst fun _ hid => hid
  | readAll =>
    have hmap : (notices.map markRead).map (·.id) = notices.map (·.id) := by
      simp [markRead]
    rw [NotificationAction.apply, Unique, hmap]
    exact h
  | delete id => exact h.sublist (List.filter_sublist.map _)
  | clear => exact List.nodup_nil

theorem Unique.pushNew (h : Unique notices) : Unique (pushNew notices item) := by
  rw [Inbox.pushNew]
  split
  · exact h
  · rename_i hnew
    rw [any_id_iff] at hnew
    rw [Unique, List.map_append, List.nodup_append]
    refine ⟨h, List.nodup_singleton _, ?_⟩
    intro a ha b hb
    obtain rfl := List.mem_singleton.mp hb
    rintro rfl
    exact hnew ha

/-- A page brings no notice twice, whatever the server lists. -/
theorem Unique.applyPage (h : Unique notices) : Unique (applyPage clock append items notices) := by
  have hstart : Unique (if append then notices else []) := by
    cases append with
    | true => exact h
    | false => exact List.nodup_nil
  rw [Inbox.applyPage]
  generalize (if append then notices else []) = start at hstart
  induction items generalizing start with
  | nil => exact hstart
  | cons item items ih => exact ih _ hstart.pushNew

theorem Unique.mergeAnnouncement (h : Unique notices) {item : ServerNotification} :
    Unique (mergeAnnouncement clock notices item) := by
  rw [Inbox.mergeAnnouncement]
  split
  · exact h.updateFirst fun _ _ => rfl
  · rename_i hnew
    rw [any_id_iff] at hnew
    exact List.nodup_cons.mpr ⟨hnew, h⟩

theorem Unique.mergeAnnouncements (h : Unique notices) :
    Unique (mergeAnnouncements clock items notices) := by
  rw [Inbox.mergeAnnouncements]
  induction items generalizing notices with
  | nil => exact h
  | cons item items ih => exact ih h.mergeAnnouncement

/-- The notices that there are no more once the action is taken. -/
def NotificationAction.Undoes : NotificationAction → NotificationData → Prop
  | .read id, notice => notice.id = id ∧ notice.read = false
  | .readAll, notice => notice.read = false
  | .delete id, notice => notice.id = id
  | .clear, _ => True

theorem mem_updateFirst (hmem : notice ∈ updateFirst id f notices) :
    notice ∈ notices ∨ ∃ old ∈ notices, old.id = id ∧ notice = f old := by
  induction notices with
  | nil => exact absurd hmem List.not_mem_nil
  | cons first notices ih =>
    rw [updateFirst] at hmem
    split at hmem
    · rename_i hid
      rcases List.mem_cons.mp hmem with rfl | hmem
      · exact .inr ⟨first, List.mem_cons_self, hid, rfl⟩
      · exact .inl (List.mem_cons_of_mem _ hmem)
    · rcases List.mem_cons.mp hmem with rfl | hmem
      · exact .inl List.mem_cons_self
      · rcases ih hmem with hold | ⟨old, hold, hid, rfl⟩
        · exact .inl (List.mem_cons_of_mem _ hold)
        · exact .inr ⟨old, List.mem_cons_of_mem _ hold, hid, rfl⟩

/-- Where notices are unique, the one that has the id is the one that is changed. -/
theorem Unique.mem_updateFirst (h : Unique notices) (hmem : notice ∈ Inbox.updateFirst id f notices) :
    notice ∈ notices ∧ notice.id ≠ id ∨ ∃ old ∈ notices, old.id = id ∧ notice = f old := by
  induction notices with
  | nil => exact absurd hmem List.not_mem_nil
  | cons first notices ih =>
    obtain ⟨hfirst, hrest⟩ := List.nodup_cons.mp h
    rw [Inbox.updateFirst] at hmem
    split at hmem
    · rename_i hid
      rcases List.mem_cons.mp hmem with rfl | hmem
      · exact .inr ⟨first, List.mem_cons_self, hid, rfl⟩
      · refine .inl ⟨List.mem_cons_of_mem _ hmem, ?_⟩
        rintro rfl
        exact hfirst (List.mem_map.mpr ⟨notice, hmem, hid.symm⟩)
    · rename_i hid
      rcases List.mem_cons.mp hmem with rfl | hmem
      · exact .inl ⟨List.mem_cons_self, hid⟩
      · rcases ih hrest hmem with ⟨hold, hother⟩ | ⟨old, hold, hid, rfl⟩
        · exact .inl ⟨List.mem_cons_of_mem _ hold, hother⟩
        · exact .inr ⟨old, List.mem_cons_of_mem _ hold, hid, rfl⟩

theorem NotificationAction.not_undoes_apply (h : Unique notices) :
    ∀ notice ∈ action.apply notices, ¬action.Undoes notice := by
  intro notice hmem hundoes
  cases action with
  | read id =>
    rcases h.mem_updateFirst hmem with ⟨-, hother⟩ | ⟨old, -, -, rfl⟩
    · exact hother hundoes.1
    · exact Bool.noConfusion hundoes.2
  | readAll =>
    obtain ⟨old, -, rfl⟩ := List.mem_map.mp hmem
    exact Bool.noConfusion hundoes
  | delete id => exact (of_decide_eq_true (List.mem_filter.mp hmem).2) hundoes
  | clear => exact absurd hmem List.not_mem_nil

/-- A notice that is read is undone only if it was before. -/
theorem NotificationAction.Undoes.of_read (h : action.Undoes { notice with read := true }) :
    action.Undoes notice := by
  cases action with
  | read id => exact Bool.noConfusion h.2
  | readAll => exact Bool.noConfusion h
  | delete id => exact h
  | clear => trivial

theorem NotificationAction.Undoes.of_or_read {read : Bool}
    (h : action.Undoes { notice with read := notice.read || read }) : action.Undoes notice := by
  cases action with
  | read id => exact ⟨h.1, (Bool.or_eq_false_iff.mp h.2).1⟩
  | readAll => exact (Bool.or_eq_false_iff.mp h).1
  | delete id => exact h
  | clear => trivial

/-- Later actions bring nothing back. -/
theorem NotificationAction.not_undoes_apply_later {later : NotificationAction}
    (h : ∀ notice ∈ notices, ¬action.Undoes notice) :
    ∀ notice ∈ later.apply notices, ¬action.Undoes notice := by
  intro notice hmem hundoes
  cases later with
  | read id =>
    rcases mem_updateFirst hmem with hold | ⟨old, hold, -, rfl⟩
    · exact h notice hold hundoes
    · exact h old hold hundoes.of_read
  | readAll =>
    obtain ⟨old, hold, rfl⟩ := List.mem_map.mp hmem
    exact h old hold hundoes.of_read
  | delete id => exact h notice (List.mem_filter.mp hmem).1 hundoes
  | clear => exact absurd hmem List.not_mem_nil

theorem mem_applyPage (hmem : notice ∈ applyPage clock append items notices) :
    notice ∈ notices ∨ notice ∈ items.map (notificationData clock) := by
  have hfold : ∀ (data start : List NotificationData), notice ∈ data.foldl pushNew start →
      notice ∈ start ∨ notice ∈ data := by
    intro data
    induction data with
    | nil => exact fun start hmem => .inl hmem
    | cons item data ih =>
      intro start hmem
      rcases ih _ hmem with hstart | hdata
      · rw [pushNew] at hstart
        split at hstart
        · exact .inl hstart
        · rcases List.mem_append.mp hstart with hstart | hitem
          · exact .inl hstart
          · exact .inr (List.mem_singleton.mp hitem ▸ List.mem_cons_self)
      · exact .inr (List.mem_cons_of_mem _ hdata)
  rcases hfold _ _ hmem with hstart | hdata
  · cases append with
    | true => exact .inl hstart
    | false => exact absurd hstart List.not_mem_nil
  · exact .inr hdata

theorem mem_mergeAnnouncements (hmem : notice ∈ mergeAnnouncements clock items notices) :
    notice ∈ notices ∨ ∃ data ∈ items.map (notificationData clock), ∃ read,
      notice = { data with read := data.read || read } := by
  induction items generalizing notices with
  | nil => exact .inl hmem
  | cons item items ih =>
    rcases ih hmem with hmem | ⟨data, hdata, hread⟩
    · rw [mergeAnnouncement] at hmem
      split at hmem
      · rcases mem_updateFirst hmem with hold | ⟨old, -, -, rfl⟩
        · exact .inl hold
        · exact .inr ⟨_, List.mem_cons_self, old.read, rfl⟩
      · rcases List.mem_cons.mp hmem with rfl | hold
        · exact .inr ⟨_, List.mem_cons_self, false, by rw [Bool.or_false]⟩
        · exact .inl hold
    · exact .inr ⟨data, List.mem_cons_of_mem _ hdata, hread⟩

end Unique

end ArtForgeStudio.Inbox
