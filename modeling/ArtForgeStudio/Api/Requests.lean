import ArtForgeStudio.Api.Error

/-! # Request bodies of paid tasks

Each structure has the members of the source's request in their order, and `toValue` is
its serialization. A video request additionally validates its own fields.
-/

namespace ArtForgeStudio.Api

/-- The login that a request is made for. -/
structure SessionScope where
  ownerUserId : String
  authEpoch : Nat
  deriving DecidableEq

/-- The payer and the session that a paid request was captured for. -/
structure BillingScope where
  session : SessionScope
  accountGroupId : String
  deriving DecidableEq

structure CreateGenerationTask where
  clientRequestId : String
  taskType : String
  modelCode : String
  prompt : String
  quality : Option String
  count : Option Int
  aspectRatio : Option String
  referenceFileIds : Option (List String)
  targetLanguage : Option String
  deriving DecidableEq

def CreateGenerationTask.toValue (r : CreateGenerationTask) : Json :=
  .present [("client_request_id", some (.str r.clientRequestId)), ("task_type", some (.str r.taskType)),
    ("model_code", some (.str r.modelCode)), ("prompt", some (.str r.prompt)),
    ("quality", r.quality.map .str), ("count", r.count.map .num),
    ("aspect_ratio", r.aspectRatio.map .str),
    ("reference_file_ids", r.referenceFileIds.map Json.strings),
    ("target_language", r.targetLanguage.map .str)]

structure CreateVideoGenerationTask where
  clientRequestId : String
  taskType : String
  modelCode : String
  prompt : String
  sourceFileId : String
  referenceFileIds : List String
  aspectRatio : String
  resolution : String
  durationSecs : Int
  quoteId : String
  deriving DecidableEq

namespace CreateVideoGenerationTask

def toValue (r : CreateVideoGenerationTask) : Json :=
  .obj [("client_request_id", .str r.clientRequestId), ("task_type", .str r.taskType),
    ("model_code", .str r.modelCode), ("prompt", .str r.prompt),
    ("source_file_id", .str r.sourceFileId), ("reference_file_ids", Json.strings r.referenceFileIds),
    ("aspect_ratio", .str r.aspectRatio), ("resolution", .str r.resolution),
    ("duration_secs", .num r.durationSecs), ("quote_id", .str r.quoteId)]

/-- No member of a video request is skipped, so its value determines it. -/
theorem toValue_injective {a b : CreateVideoGenerationTask} (h : a.toValue = b.toValue) : a = b := by
  simp only [toValue, Json.obj.injEq, List.cons.injEq, Prod.mk.injEq, Json.str.injEq,
    Json.num.injEq, true_and, and_true] at h
  obtain ⟨hkey, htype, hmodel, hprompt, hsource, hrefs, hratio, hres, hsecs, hquote⟩ := h
  cases a
  cases b
  simp_all only [mk.injEq, true_and]
  exact ⟨Json.strings_injective hrefs, trivial⟩

/-- The ratio is two positive decimal numbers around the first colon. -/
def aspectRatioValid (ratio : String) : Bool :=
  match splitOnce ':' ratio.toList with
  | some (width, height) =>
    (parseU32 width).any (0 < ·) && (parseU32 height).any (0 < ·)
  | none => false

/-- `CreateVideoQuote::validate` on the fields a quote shares with the task -/
def validateQuote (r : CreateVideoGenerationTask) : Except ApiError Unit :=
  if trimIsEmpty r.modelCode || trimIsEmpty r.sourceFileId || r.referenceFileIds.isEmpty ||
      !r.referenceFileIds.contains r.sourceFileId || r.referenceFileIds.any trimIsEmpty then
    .error (.protocol "视频模型或源图片无效")
  else if !aspectRatioValid r.aspectRatio then .error (.protocol "视频尺寸无效")
  else if !(["480P", "720P", "1080P"].contains r.resolution) then
    .error (.protocol "视频清晰度无效")
  else if r.durationSecs < 4 then .error (.protocol "视频时长不能少于 4 秒")
  else .ok ()

def validate (r : CreateVideoGenerationTask) : Except ApiError Unit := do
  r.validateQuote
  if trimIsEmpty r.clientRequestId || trimIsEmpty r.quoteId || trimIsEmpty r.prompt ||
      r.taskType ≠ "image_to_video" then
    .error (.protocol "视频生成请求无效")

end CreateVideoGenerationTask

structure CreateUpscaleGenerationTask where
  clientRequestId : String
  taskType : String
  modelCode : String
  prompt : String
  quality : String
  referenceFileIds : List String
  targetWidth : Nat
  targetHeight : Nat

def CreateUpscaleGenerationTask.toValue (r : CreateUpscaleGenerationTask) : Json :=
  .obj [("client_request_id", .str r.clientRequestId), ("task_type", .str r.taskType),
    ("model_code", .str r.modelCode), ("prompt", .str r.prompt), ("quality", .str r.quality),
    ("reference_file_ids", Json.strings r.referenceFileIds), ("target_width", .num r.targetWidth),
    ("target_height", .num r.targetHeight)]

structure CreateImageEditTask where
  clientRequestId : String
  taskType : String
  modelCode : String
  prompt : String
  quality : String
  aspectRatio : String
  sourceFileId : String
  maskFileId : String

def CreateImageEditTask.toValue (r : CreateImageEditTask) : Json :=
  .obj [("client_request_id", .str r.clientRequestId), ("task_type", .str r.taskType),
    ("model_code", .str r.modelCode), ("prompt", .str r.prompt), ("quality", .str r.quality),
    ("aspect_ratio", .str r.aspectRatio), ("source_file_id", .str r.sourceFileId),
    ("mask_file_id", .str r.maskFileId)]

/-- The four toolbox bodies: a key, the one uploaded source and at most one named option. -/
def toolboxValue (clientRequestId referenceFileId : String) (option : Option (String × String)) : Json :=
  .obj ([("client_request_id", .str clientRequestId), ("reference_file_id", .str referenceFileId)] ++
    (option.map fun o => (o.1, Json.str o.2)).toList)

structure CreatePromptOptimization where
  clientRequestId : String
  prompt : String
  runMode : String
  focusMode : String
  maxRounds : Int
  targetScore : Int
  deriving DecidableEq

def CreatePromptOptimization.toValue (r : CreatePromptOptimization) : Json :=
  .obj [("client_request_id", .str r.clientRequestId), ("prompt", .str r.prompt),
    ("run_mode", .str r.runMode), ("focus_mode", .str r.focusMode),
    ("max_rounds", .num r.maxRounds), ("target_score", .num r.targetScore)]

/-- The three order bodies: what is bought, and the key. -/
def orderValue (member product clientRequestId : String) : Json :=
  .obj [(member, .str product), ("client_request_id", .str clientRequestId)]

def creditOrderValue (packCode clientRequestId : String) : Json :=
  orderValue "pack_code" packCode clientRequestId

def membershipOrderValue (planCode clientRequestId : String) : Json :=
  orderValue "plan_code" planCode clientRequestId

def upgradeOrderValue (quoteId clientRequestId : String) : Json :=
  orderValue "quote_id" quoteId clientRequestId

end ArtForgeStudio.Api
