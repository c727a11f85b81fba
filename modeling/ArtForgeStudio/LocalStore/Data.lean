import ArtForgeStudio.Api.Requests
import ArtForgeStudio.Library.Codecs
import ArtForgeStudio.Library.Outcome

/-! # The private store of a user

The data that a user's store saves, with the JSON of what is saved in settings. Coordinates are
finite numbers, by their value.
-/

namespace ArtForgeStudio.LocalStore

open ArtForgeStudio.Codecs

structure ReferenceData where
  id : String
  sourcePath : String
  deriving DecidableEq

structure ReferenceGroups where
  character : List ReferenceData := []
  scene : List ReferenceData := []
  ui : List ReferenceData := []
  effect : List ReferenceData := []
  deriving DecidableEq

structure CanvasNoteData where
  id : String
  kind : String := "text"
  content : String
  x : Rat
  y : Rat
  width : Rat := 280
  height : Rat := 176
  parentGroupId : String := ""
  zIndex : Int := 0
  imagePath : String := ""
  fontSize : Rat := 12
  selected : Bool := false
  deriving DecidableEq

structure CanvasLinkData where
  id : String
  sourceId : String
  targetId : String
  flowReversed : Bool := false
  deriving DecidableEq

structure CanvasWorkspaceData where
  notes : List CanvasNoteData := []
  links : List CanvasLinkData := []
  prompt : String := ""
  references : List ReferenceData := []
  deriving DecidableEq

structure SavedVideoOutput where
  model : String := ""
  resolution : String := ""
  durationSecs : Int := 0
  sourceAssetId : String := ""
  previewSourcePath : String := ""
  prompt : String := ""
  clientRequestId : String
  serverTaskId : String
  fileId : String
  billingAccountGroupId : String
  sha256 : String
  sizeBytes : Nat
  sourcePath : String
  title : String
  createdAt : String
  deriving DecidableEq

structure PendingCreditRedemption where
  code : String
  clientRequestId : String
  billingAccountGroupId : String
  deriving DecidableEq

structure PromptHistoryEntry where
  prompt : String
  englishPrompt : String := ""
  category : String := ""
  deriving DecidableEq

structure DeepPromptOptimizationRecord where
  originalPrompt : String := ""
  chinesePrompt : String := ""
  englishPrompt : String := ""
  baselineScore : Int := 0
  currentScore : Int := 0
  completedRounds : Int := 0
  consumedCredits : String := ""
  changeSummary : String := ""
  deriving DecidableEq

structure DeepPromptBinding where
  chinese : String
  english : String
  record : Option DeepPromptOptimizationRecord := none
  deriving DecidableEq

structure CustomPromptProfile where
  name : String := ""
  category : String := ""
  format : String := ""
  negativePrompt : String := ""
  referencePath : String := ""
  referencePaths : List String := []
  deriving DecidableEq

structure VideoPromptDraft where
  sourceId : String
  prompt : String
  deriving DecidableEq

structure PromptDrafts where
  videoByOwner : BTreeMap VideoPromptDraft := ∅
  character : String := ""
  scene : String := ""
  ui : String := ""
  effect : String := ""
  negativeCharacter : String := ""
  negativeScene : String := ""
  negativeUi : String := ""
  negativeEffect : String := ""
  deriving DecidableEq

structure NotificationData where
  id : String
  title : String
  model : String
  time : String
  reason : String
  success : Bool
  read : Bool
  announcement : Bool := false
  deriving DecidableEq

structure StoredAssetData where
  id : String
  conversationId : String
  title : String
  category : String
  kind : String
  time : String
  prompt : String
  ratio : String
  quality : String
  model : String
  origin : String := ""
  width : Int := 0
  height : Int := 0
  sourcePath : String
  referencePaths : List String := []
  cutoutDone : Bool := false
  removeBlackDone : Bool := false
  upscaleDone : Bool := false
  deriving DecidableEq

structure LocalStoreData where
  videoOutputs : BTreeMap SavedVideoOutput := ∅
  references : ReferenceGroups := {}
  pendingCreditRedemptionsByOwner : BTreeMap PendingCreditRedemption := ∅
  generations : List StoredAssetData := []
  assets : List StoredAssetData := []
  notifications : List NotificationData := []
  imageModel : String := ""
  reasoningModel : String := ""
  videoModel : String := ""
  promptDrafts : PromptDrafts := {}
  dismissedPromptHistory : BTreeSet := ∅
  savedPromptHistory : List PromptHistoryEntry := []
  customPrompts : List String := []
  selectedCustomPrompts : BTreeMap BTreeSet := ∅
  customPromptTimes : BTreeMap String := ∅
  customPromptProfiles : BTreeMap CustomPromptProfile := ∅
  canvasNotes : List CanvasNoteData := []
  canvasLinks : List CanvasLinkData := []
  activeCanvasWorkspaceId : String := ""
  canvasWorkspaces : BTreeMap CanvasWorkspaceData := ∅
  deepPromptJobId : String := ""
  deepPromptJobsByOwner : BTreeMap String := ∅
  deepPromptPendingRequestsByOwner : BTreeMap Api.CreatePromptOptimization := ∅
  deepPromptBindings : BTreeMap DeepPromptBinding := ∅
  contactPopupDismissed : Bool := false
  deriving DecidableEq

open Codec

def referenceCodec : Codec ReferenceData where
  encode value := .obj [("id", string.encode value.id),
    ("source_path", string.encode value.sourcePath)]
  decode
    | .obj members => do
      let id ← member members "id" string
      let sourcePath ← member members "source_path" string
      pure ⟨id, sourcePath⟩
    | _ => none
  decode_encode value := by simp

instance : Faithful referenceCodec := ⟨rfl⟩

def referenceGroupsCodec : Codec ReferenceGroups where
  encode value := .obj [("character", (list referenceCodec).encode value.character),
    ("scene", (list referenceCodec).encode value.scene),
    ("ui", (list referenceCodec).encode value.ui),
    ("effect", (list referenceCodec).encode value.effect)]
  decode
    | .obj members => do
      let character ← member members "character" (list referenceCodec)
      let scene ← member members "scene" (list referenceCodec)
      let ui ← member members "ui" (list referenceCodec)
      let effect ← member members "effect" (list referenceCodec)
      pure ⟨character, scene, ui, effect⟩
    | _ => none
  decode_encode value := by simp

instance : Faithful referenceGroupsCodec := ⟨rfl⟩

/-- The selection of a note is not saved. -/
def canvasNoteCodec : Codec CanvasNoteData where
  encode value := .obj [("id", string.encode value.id), ("kind", string.encode value.kind),
    ("content", string.encode value.content), ("x", float.encode value.x),
    ("y", float.encode value.y), ("width", float.encode value.width),
    ("height", float.encode value.height), ("parent_group_id", string.encode value.parentGroupId),
    ("z_index", int.encode value.zIndex), ("image_path", string.encode value.imagePath),
    ("font_size", float.encode value.fontSize)]
  decode
    | .obj members => do
      let id ← member members "id" string
      let kind ← memberOr members "kind" string "text"
      let content ← member members "content" string
      let x ← member members "x" float
      let y ← member members "y" float
      let width ← memberOr members "width" float 280
      let height ← memberOr members "height" float 176
      let parentGroupId ← memberOr members "parent_group_id" string ""
      let zIndex ← memberOr members "z_index" int 0
      let imagePath ← memberOr members "image_path" string ""
      let fontSize ← memberOr members "font_size" float 12
      pure ⟨id, kind, content, x, y, width, height, parentGroupId, zIndex, imagePath, fontSize,
        false⟩
    | _ => none
  restored := fun value => { value with selected := false }
  decode_encode value := by simp

def canvasLinkCodec : Codec CanvasLinkData where
  encode value := .obj [("id", string.encode value.id),
    ("source_id", string.encode value.sourceId), ("target_id", string.encode value.targetId),
    ("flow_reversed", bool.encode value.flowReversed)]
  decode
    | .obj members => do
      let id ← member members "id" string
      let sourceId ← member members "source_id" string
      let targetId ← member members "target_id" string
      let flowReversed ← memberOr members "flow_reversed" bool false
      pure ⟨id, sourceId, targetId, flowReversed⟩
    | _ => none
  decode_encode value := by simp

instance : Faithful canvasLinkCodec := ⟨rfl⟩

def canvasWorkspaceCodec : Codec CanvasWorkspaceData where
  encode value := .obj [("notes", (list canvasNoteCodec).encode value.notes),
    ("links", (list canvasLinkCodec).encode value.links), ("prompt", string.encode value.prompt),
    ("references", (list referenceCodec).encode value.references)]
  decode
    | .obj members => do
      let notes ← memberOr members "notes" (list canvasNoteCodec) []
      let links ← memberOr members "links" (list canvasLinkCodec) []
      let prompt ← memberOr members "prompt" string ""
      let references ← memberOr members "references" (list referenceCodec) []
      pure ⟨notes, links, prompt, references⟩
    | _ => none
  restored := fun value => { value with notes := value.notes.map canvasNoteCodec.restored }
  decode_encode value := by simp [list_restored]

def savedVideoOutputCodec : Codec SavedVideoOutput where
  encode value := .obj [("model", string.encode value.model),
    ("resolution", string.encode value.resolution),
    ("duration_secs", int.encode value.durationSecs),
    ("source_asset_id", string.encode value.sourceAssetId),
    ("preview_source_path", string.encode value.previewSourcePath),
    ("prompt", string.encode value.prompt),
    ("client_request_id", string.encode value.clientRequestId),
    ("server_task_id", string.encode value.serverTaskId), ("file_id", string.encode value.fileId),
    ("billing_account_group_id", string.encode value.billingAccountGroupId),
    ("sha256", string.encode value.sha256), ("size_bytes", nat.encode value.sizeBytes),
    ("source_path", string.encode value.sourcePath), ("title", string.encode value.title),
    ("created_at", string.encode value.createdAt)]
  decode
    | .obj members => do
      let model ← memberOr members "model" string ""
      let resolution ← memberOr members "resolution" string ""
      let durationSecs ← memberOr members "duration_secs" int 0
      let sourceAssetId ← memberOr members "source_asset_id" string ""
      let previewSourcePath ← memberOr members "preview_source_path" string ""
      let prompt ← memberOr members "prompt" string ""
      let clientRequestId ← member members "client_request_id" string
      let serverTaskId ← member members "server_task_id" string
      let fileId ← member members "file_id" string
      let billingAccountGroupId ← member members "billing_account_group_id" string
      let sha256 ← member members "sha256" string
      let sizeBytes ← member members "size_bytes" nat
      let sourcePath ← member members "source_path" string
      let title ← member members "title" string
      let createdAt ← member members "created_at" string
      pure ⟨model, resolution, durationSecs, sourceAssetId, previewSourcePath, prompt,
        clientRequestId, serverTaskId, fileId, billingAccountGroupId, sha256, sizeBytes,
        sourcePath, title, createdAt⟩
    | _ => none
  decode_encode value := by simp

instance : Faithful savedVideoOutputCodec := ⟨rfl⟩

def pendingCreditRedemptionCodec : Codec PendingCreditRedemption where
  encode value := .obj [("code", string.encode value.code),
    ("client_request_id", string.encode value.clientRequestId),
    ("billing_account_group_id", string.encode value.billingAccountGroupId)]
  decode
    | .obj members => do
      let code ← member members "code" string
      let clientRequestId ← member members "client_request_id" string
      let billingAccountGroupId ← member members "billing_account_group_id" string
      pure ⟨code, clientRequestId, billingAccountGroupId⟩
    | _ => none
  decode_encode value := by simp

instance : Faithful pendingCreditRedemptionCodec := ⟨rfl⟩

def promptHistoryEntryCodec : Codec PromptHistoryEntry where
  encode value := .obj [("prompt", string.encode value.prompt),
    ("english_prompt", string.encode value.englishPrompt),
    ("category", string.encode value.category)]
  decode
    | .obj members => do
      let prompt ← member members "prompt" string
      let englishPrompt ← memberOr members "english_prompt" string ""
      let category ← memberOr members "category" string ""
      pure ⟨prompt, englishPrompt, category⟩
    | _ => none
  decode_encode value := by simp

instance : Faithful promptHistoryEntryCodec := ⟨rfl⟩

def deepPromptRecordCodec : Codec DeepPromptOptimizationRecord where
  encode value := .obj [("original_prompt", string.encode value.originalPrompt),
    ("chinese_prompt", string.encode value.chinesePrompt),
    ("english_prompt", string.encode value.englishPrompt),
    ("baseline_score", int.encode value.baselineScore),
    ("current_score", int.encode value.currentScore),
    ("completed_rounds", int.encode value.completedRounds),
    ("consumed_credits", string.encode value.consumedCredits),
    ("change_summary", string.encode value.changeSummary)]
  decode
    | .obj members => do
      let originalPrompt ← memberOr members "original_prompt" string ""
      let chinesePrompt ← memberOr members "chinese_prompt" string ""
      let englishPrompt ← memberOr members "english_prompt" string ""
      let baselineScore ← memberOr members "baseline_score" int 0
      let currentScore ← memberOr members "current_score" int 0
      let completedRounds ← memberOr members "completed_rounds" int 0
      let consumedCredits ← memberOr members "consumed_credits" string ""
      let changeSummary ← memberOr members "change_summary" string ""
      pure ⟨originalPrompt, chinesePrompt, englishPrompt, baselineScore, currentScore,
        completedRounds, consumedCredits, changeSummary⟩
    | _ => none
  decode_encode value := by simp

instance : Faithful deepPromptRecordCodec := ⟨rfl⟩

def deepPromptRecordOption : Codec (Option DeepPromptOptimizationRecord) :=
  option deepPromptRecordCodec fun _ heq => by cases heq

instance : Faithful deepPromptRecordOption :=
  inferInstanceAs (Faithful (option deepPromptRecordCodec _))

def deepPromptBindingCodec : Codec DeepPromptBinding where
  encode value := .obj [("chinese", string.encode value.chinese),
    ("english", string.encode value.english),
    ("record", deepPromptRecordOption.encode value.record)]
  decode
    | .obj members => do
      let chinese ← member members "chinese" string
      let english ← member members "english" string
      let record ← memberOr members "record" deepPromptRecordOption none
      pure ⟨chinese, english, record⟩
    | _ => none
  decode_encode value := by simp

instance : Faithful deepPromptBindingCodec := ⟨rfl⟩

def customPromptProfileCodec : Codec CustomPromptProfile where
  encode value := .obj [("name", string.encode value.name),
    ("category", string.encode value.category), ("format", string.encode value.format),
    ("negative_prompt", string.encode value.negativePrompt),
    ("reference_path", string.encode value.referencePath),
    ("reference_paths", (list string).encode value.referencePaths)]
  decode
    | .obj members => do
      let name ← memberOr members "name" string ""
      let category ← memberOr members "category" string ""
      let format ← memberOr members "format" string ""
      let negativePrompt ← memberOr members "negative_prompt" string ""
      let referencePath ← memberOr members "reference_path" string ""
      let referencePaths ← memberOr members "reference_paths" (list string) []
      pure ⟨name, category, format, negativePrompt, referencePath, referencePaths⟩
    | _ => none
  decode_encode value := by simp

instance : Faithful customPromptProfileCodec := ⟨rfl⟩

def videoPromptDraftCodec : Codec VideoPromptDraft where
  encode value := .obj [("source_id", string.encode value.sourceId),
    ("prompt", string.encode value.prompt)]
  decode
    | .obj members => do
      let sourceId ← member members "source_id" string
      let prompt ← member members "prompt" string
      pure ⟨sourceId, prompt⟩
    | _ => none
  decode_encode value := by simp

instance : Faithful videoPromptDraftCodec := ⟨rfl⟩

def promptDraftsCodec : Codec PromptDrafts where
  encode value := .obj [
    ("video_by_owner", (map videoPromptDraftCodec).encode value.videoByOwner),
    ("character", string.encode value.character), ("scene", string.encode value.scene),
    ("ui", string.encode value.ui), ("effect", string.encode value.effect),
    ("negative_character", string.encode value.negativeCharacter),
    ("negative_scene", string.encode value.negativeScene),
    ("negative_ui", string.encode value.negativeUi),
    ("negative_effect", string.encode value.negativeEffect)]
  decode
    | .obj members => do
      let videoByOwner ← memberOr members "video_by_owner" (map videoPromptDraftCodec) ∅
      let character ← memberOr members "character" string ""
      let scene ← memberOr members "scene" string ""
      let ui ← memberOr members "ui" string ""
      let effect ← memberOr members "effect" string ""
      let negativeCharacter ← memberOr members "negative_character" string ""
      let negativeScene ← memberOr members "negative_scene" string ""
      let negativeUi ← memberOr members "negative_ui" string ""
      let negativeEffect ← memberOr members "negative_effect" string ""
      pure ⟨videoByOwner, character, scene, ui, effect, negativeCharacter, negativeScene,
        negativeUi, negativeEffect⟩
    | _ => none
  decode_encode value := by simp

instance : Faithful promptDraftsCodec := ⟨rfl⟩

def createPromptOptimizationCodec : Codec Api.CreatePromptOptimization where
  encode value := .obj [("client_request_id", string.encode value.clientRequestId),
    ("prompt", string.encode value.prompt), ("run_mode", string.encode value.runMode),
    ("focus_mode", string.encode value.focusMode), ("max_rounds", int.encode value.maxRounds),
    ("target_score", int.encode value.targetScore)]
  decode
    | .obj members => do
      let clientRequestId ← member members "client_request_id" string
      let prompt ← member members "prompt" string
      let runMode ← member members "run_mode" string
      let focusMode ← member members "focus_mode" string
      let maxRounds ← member members "max_rounds" int
      let targetScore ← member members "target_score" int
      pure ⟨clientRequestId, prompt, runMode, focusMode, maxRounds, targetScore⟩
    | _ => none
  decode_encode value := by simp

instance : Faithful createPromptOptimizationCodec := ⟨rfl⟩

end ArtForgeStudio.LocalStore
