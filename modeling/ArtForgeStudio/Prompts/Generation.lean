import ArtForgeStudio.Prompts.Paragraphs

/-! # The prompt of a generation

What is sent is the prompt of the user with instructions behind it; what is stored is meant to be
the prompt again.
-/

namespace ArtForgeStudio.Prompts

open ArtForgeStudio.Api ArtForgeStudio.Deliveries

inductive PromptLanguage where
  | chinese | english
  deriving DecidableEq

structure PromptControls where
  category : String
  creation : String := "none"
  style : String := "none"
  view : String := "none"
  weather : String := "none"
  time : String := "none"
  light : String := "none"

structure QuoteContext where
  title : String := ""
  prompt : String := ""
  ratio : String := ""
  quality : String := ""
  width : Int := 0
  height : Int := 0

def chineseLabels : List (String × String × String) :=
  [("creation", "character-standee", "角色立绘"), ("creation", "character-turnaround", "角色三视图设定"),
    ("creation", "character-8dir", "角色 8 方向动作"),
    ("creation", "character-spritesheet", "角色 SpriteSheet 序列帧"),
    ("creation", "character-spine-parts", "Spine 角色拆件"),
    ("creation", "character-portrait", "NPC 头像"), ("creation", "character-poster", "角色宣传海报"),
    ("creation", "scene-concept", "场景概念设计"), ("creation", "tileset", "游戏地图块素材"),
    ("creation", "map-ref", "关卡地图参考"), ("creation", "poster", "宣传主视觉海报"),
    ("creation", "loading", "游戏加载页插画"), ("creation", "minimap", "俯视小地图"),
    ("creation", "building-kit", "模块化建筑套件"), ("creation", "ui-hud", "HUD 战斗界面"),
    ("creation", "ui-main-screen", "游戏主界面"), ("creation", "ui-backpack", "背包物品界面"),
    ("creation", "ui-shop", "商城购买界面"), ("creation", "ui-icon", "UI 图标"),
    ("creation", "ui-loading", "Loading 载入界面"), ("creation", "ui-popup", "弹窗模态界面"),
    ("creation", "fx-skill", "技能特效"), ("creation", "fx-buff", "Buff 状态特效"),
    ("creation", "fx-explosion", "爆炸冲击特效"), ("creation", "fx-scene", "场景环境特效"),
    ("creation", "fx-ui", "UI 反馈特效"), ("creation", "fx-weapon-trail", "武器拖尾轨迹"),
    ("style", "warm", "温暖治愈风格"), ("style", "cold", "冷系压迫风格"), ("style", "vivid", "高饱和鲜艳色彩"),
    ("style", "soft", "低饱和柔和色彩"), ("style", "dark", "黑暗奇幻风格"), ("style", "cyber", "赛博朋克霓虹风格"),
    ("style", "fantasy", "日式幻想风格"), ("style", "ghibli", "绘本动画风格"), ("view", "top-down", "俯视视角"),
    ("view", "2.5d", "2.5D 斜视角"), ("view", "isometric", "等距视角"), ("view", "side-view", "侧视视角"),
    ("view", "third-person", "第三人称视角"), ("view", "first-person", "第一人称视角"),
    ("view", "orthographic", "正交视角"), ("weather", "sunny", "晴天"), ("weather", "cloudy", "阴天"),
    ("weather", "rainy", "雨天"), ("weather", "storm", "暴风雨天气"), ("weather", "snow", "雪天"),
    ("weather", "fog", "雾天"), ("weather", "dust", "沙尘氛围"), ("time", "morning", "清晨"),
    ("time", "noon", "正午日光"), ("time", "dusk", "黄昏金色时刻"), ("time", "blue-hour", "蓝调时刻"),
    ("time", "night", "深夜"), ("light", "soft", "柔和自然光"), ("light", "cinematic", "电影感光照"),
    ("light", "glow", "梦幻发光"), ("light", "contrast", "高对比光照"), ("light", "volumetric", "体积光束"),
    ("light", "neon", "霓虹光照")]

def chineseDefaults : List (String × String) :=
  [("creation", "自由创作"), ("style", "自由风格"), ("view", "自由视角"), ("weather", "自然天气"),
    ("time", "自然时间"), ("light", "自然光照")]

def englishLabels : List (String × String × String) :=
  [("creation", "character-standee", "character full-body standing illustration"),
    ("creation", "character-turnaround", "character three-view turnaround sheet"),
    ("creation", "character-8dir", "character 8-direction action set"),
    ("creation", "character-spritesheet", "character SpriteSheet animation frames"),
    ("creation", "character-spine-parts", "character Spine separated parts"),
    ("creation", "character-portrait", "NPC character portrait"),
    ("creation", "character-poster", "character promotional poster"),
    ("creation", "scene-concept", "scene concept art"),
    ("creation", "tileset", "TileSet game tiles"),
    ("creation", "map-ref", "level design map reference"),
    ("creation", "poster", "key visual promotional artwork"),
    ("creation", "loading", "game loading screen artwork"),
    ("creation", "minimap", "mini map top-down game map"),
    ("creation", "building-kit", "modular building kit"),
    ("creation", "ui-hud", "game HUD battle interface"),
    ("creation", "ui-main-screen", "game main screen entry interface"),
    ("creation", "ui-backpack", "backpack item interface"),
    ("creation", "ui-shop", "shop purchase interface"), ("creation", "ui-icon", "UI icon"),
    ("creation", "ui-loading", "loading screen UI"),
    ("creation", "ui-popup", "popup modal interface"),
    ("creation", "fx-skill", "skill visual effect"),
    ("creation", "fx-buff", "buff status visual effect"),
    ("creation", "fx-explosion", "explosion impact visual effect"),
    ("creation", "fx-scene", "scene environmental visual effect"),
    ("creation", "fx-ui", "UI feedback visual effect"),
    ("creation", "fx-weapon-trail", "weapon trail visual effect"),
    ("style", "warm", "warm healing style"), ("style", "cold", "cold oppressive style"),
    ("style", "vivid", "high saturation vivid color"),
    ("style", "soft", "low saturation soft color"), ("style", "dark", "dark fantasy style"),
    ("style", "cyber", "cyberpunk neon style"), ("style", "fantasy", "Japanese fantasy style"),
    ("style", "ghibli", "storybook animation style"), ("view", "top-down", "top-down camera view"),
    ("view", "2.5d", "2.5D angled view"), ("view", "isometric", "isometric view"),
    ("view", "side-view", "side view"), ("view", "third-person", "third person view"),
    ("view", "first-person", "first person view"), ("view", "orthographic", "orthographic view"),
    ("weather", "sunny", "sunny weather"), ("weather", "cloudy", "cloudy weather"),
    ("weather", "rainy", "rainy weather"), ("weather", "storm", "storm weather"),
    ("weather", "snow", "snowy weather"), ("weather", "fog", "foggy weather"),
    ("weather", "dust", "dust storm atmosphere"), ("time", "morning", "morning time"),
    ("time", "noon", "noon daylight"), ("time", "dusk", "dusk golden hour"),
    ("time", "blue-hour", "blue hour"), ("time", "night", "deep night"),
    ("light", "soft", "soft natural lighting"), ("light", "cinematic", "cinematic lighting"),
    ("light", "glow", "dreamy glowing light"), ("light", "contrast", "high contrast lighting"),
    ("light", "volumetric", "volumetric light beams"), ("light", "neon", "neon lighting")]

def englishDefaults : List (String × String) :=
  [("creation", "free creation"), ("style", "free style"), ("view", "free camera view"),
    ("weather", "natural weather"), ("time", "natural time of day"), ("light", "natural lighting")]

/-- Every kind has a label for values that are not listed. -/
def controlLabel (kind value : String) (language : PromptLanguage) : String :=
  if value = "none" then ""
  else
    let (labels, defaults) := match language with
      | .chinese => (chineseLabels, chineseDefaults)
      | .english => (englishLabels, englishDefaults)
    match labels.find? fun label => label.1 = kind && label.2.1 = value with
    | some label => label.2.2
    | none => (defaults.lookup kind).getD ""

def visiblePromptControlEntries (controls : PromptControls) : List (String × String) :=
  let hideUiDefault := controls.category = "ui"
  let entry (kind value : String) (visible : Bool) := if visible then [(kind, value)] else []
  let freeIsVisible (value : String) := value ≠ "none" && (!hideUiDefault || value ≠ "free")
  entry "creation" controls.creation (freeIsVisible controls.creation) ++
    entry "style" controls.style (freeIsVisible controls.style) ++
    entry "view" controls.view (controls.view ≠ "none"
      && (controls.category = "scene" || controls.category = "character")) ++
    entry "weather" controls.weather (controls.category = "scene" && controls.weather ≠ "none") ++
    entry "time" controls.time (controls.category = "scene" && controls.time ≠ "none") ++
    entry "light" controls.light (freeIsVisible controls.light)

def promptControlsText (controls : PromptControls) (language : PromptLanguage) : String :=
  ", ".intercalate (((visiblePromptControlEntries controls).map fun entry =>
    controlLabel entry.1 entry.2 language).filter (· ≠ ""))

def promptWithControls (prompt : String) (controls : PromptControls) (language : PromptLanguage) :
    String :=
  let controlsText := promptControlsText controls language
  if controlsText = "" then prompt
  else match language with
    | .chinese => prompt ++ "\n\n生成控制：" ++ controlsText
    | .english => prompt ++ "\n\nGeneration controls: " ++ controlsText

def appendNegativePromptInstruction (prompt negativePrompt : String) (language : PromptLanguage) :
    String :=
  let negativePrompt := trim negativePrompt
  if negativePrompt = "" then prompt
  else match language with
    | .chinese => prompt ++ "\n\n反向提示词（画面中必须避免出现）：" ++ negativePrompt ++ "。"
    | .english =>
      prompt ++ "\n\nNegative prompt (must not appear in the image): " ++ negativePrompt ++ "."

/-- The rule that `append_parameter_priority_instruction` appends. -/
def parameterRule (category ratio quality : String) (language : PromptLanguage) : String :=
  if category = "ui" then match language with
    | .chinese => "UI 生成规则：画面内容、组件种类、组件数量和布局以用户输入为准；所选创作方式仅作为参考，不得覆盖用户明确描述。不要自动扩展为整套 UI、组件图集或完整界面，除非用户明确要求。最终宽高比："
        ++ ratio ++ "。最终清晰度：" ++ quality ++ "。应用会按所选张数调用生图模型。"
    | .english => "UI generation rule: follow the user's description for content, component types, count, and layout. The selected creation mode is guidance only and must not override an explicit user request. Do not expand the request into a full UI set, component atlas, or complete screen unless the user asks for one. Final aspect ratio: "
        ++ ratio ++ ". Final quality: " ++ quality
        ++ ". The application requests the selected image count from the image model."
  else match language with
    | .chinese => "参数优先规则：左侧工作台分类和下方已选择的卡片为最终参数，并覆盖用户提示词中冲突的描述。最终分类："
        ++ category ++ "。最终宽高比：" ++ ratio ++ "。最终清晰度：" ++ quality
        ++ "。应用会按所选张数调用生图模型。除非用户明确要求拼图、网格、分屏或多画面构图，否则不要在一张画布里生成多张图。"
    | .english => "Parameter priority rule: the left workspace category and selected cards below are final and override any conflicting words in the user's prompt. Final category: "
        ++ category ++ ". Final aspect ratio: " ++ ratio ++ ". Final quality: " ++ quality
        ++ ". The application requests the selected image count from the image model. Do not create grids, collages, contact sheets, split panels, or multiple images inside one canvas unless the user explicitly asks for that composition."

def appendParameterPriorityInstruction (prompt category ratio quality : String)
    (language : PromptLanguage) : String :=
  prompt ++ "\n\n" ++ parameterRule category ratio quality language

namespace QuoteContext

variable (quote : QuoteContext)

def isEmpty : Bool :=
  trimIsEmpty quote.title && trimIsEmpty quote.prompt && trimIsEmpty quote.ratio
    && trimIsEmpty quote.quality && quote.width ≤ 0 && quote.height ≤ 0

def instruction (language : PromptLanguage) : String :=
  match language with
  | .chinese => "参考图片信息：标题：" ++ quote.title ++ "；提示词：" ++ quote.prompt ++ "；宽高比："
      ++ quote.ratio ++ "；清晰度：" ++ quote.quality ++ "；尺寸：" ++ toString quote.width ++ " x "
      ++ toString quote.height ++ "。请把用户需求理解为对参考图片的修改或延续。"
  | .english => "Reference image information: title: " ++ quote.title ++ "; prompt: " ++ quote.prompt
      ++ "; aspect ratio: " ++ quote.ratio ++ "; resolution: " ++ quote.quality ++ "; size: "
      ++ toString quote.width ++ " x " ++ toString quote.height
      ++ ". Treat the user request as an edit or continuation of the reference image."

end QuoteContext

def buildGenerationPrompt (prompt negativePrompt : String) (controls : PromptControls)
    (quote : QuoteContext) (category ratio quality : String) (language : PromptLanguage) : String :=
  let finalPrompt := promptWithControls prompt controls language
  let finalPrompt := if quote.isEmpty then finalPrompt
    else finalPrompt ++ "\n\n" ++ quote.instruction language
  let finalPrompt := appendNegativePromptInstruction finalPrompt negativePrompt language
  appendParameterPriorityInstruction finalPrompt category ratio quality language

/-- What a generation is started with besides the prompt. -/
structure GenerationInputs where
  negativePrompt : String
  controls : PromptControls
  quote : QuoteContext
  category : String
  ratio : String
  quality : String
  language : PromptLanguage

namespace GenerationInputs

variable (inputs : GenerationInputs)

def build (prompt : String) : String :=
  buildGenerationPrompt prompt inputs.negativePrompt inputs.controls inputs.quote inputs.category
    inputs.ratio inputs.quality inputs.language

/-- The prompt that is stored with the image. -/
def stored (prompt : String) : String := displayGenerationPrompt (inputs.build prompt)

/-- There is no quote and no negative prompt, and every paragraph of the parameter rule is hidden
or blank. -/
def OnlyHidden : Prop :=
  inputs.quote.isEmpty = true ∧ trim inputs.negativePrompt = "" ∧
    Covered (unixLines
      (parameterRule inputs.category inputs.ratio inputs.quality inputs.language).toList)

end GenerationInputs

/-- `retry_failed_generation` starts again from the stored prompt, which is trimmed. These are the
prompts that are stored. -/
def storedPrompts : String → List GenerationInputs → List String
  | _, [] => []
  | prompt, inputs :: rest =>
    inputs.stored prompt :: storedPrompts (trim (inputs.stored prompt)) rest

/-- An instruction begins and ends with no line end, so that its own paragraphs stay apart. -/
structure Solid (text : List Char) : Prop where
  start : ∃ c rest, text = c :: rest ∧ c ≠ '\n' ∧ c ≠ '\r'
  stop : text.getLast? ≠ some '\r'

section Texts

variable {text : List Char} {texts : List (List Char)} {inputs : GenerationInputs} {prompt : String}

theorem Solid.head (h : Solid text) (rest : List Char) :
    (unixLines (text ++ rest)).head? ≠ some '\n' := by
  obtain ⟨⟨c, tail, rfl, hnewline, hreturn⟩, -⟩ := h
  rw [List.cons_append, unixLines]
  · simpa using hnewline
  · exact fun _ hc => absurd hc hreturn

def appended (texts : List (List Char)) : List Char := texts.flatMap fun text => '\n' :: '\n' :: text

/-- Behind the first blank line, the instructions are covered when each of them is. -/
theorem covered_appended (htext : Solid text) (htexts : ∀ text ∈ texts, Solid text) :
    Covered (unixLines (text ++ appended texts)) ↔ ∀ t ∈ text :: texts, Covered (unixLines t) := by
  induction texts generalizing text with
  | nil => simp [appended]
  | cons next texts ih =>
    have hnext : Solid next := htexts next List.mem_cons_self
    have hsplit : unixLines (text ++ appended (next :: texts)) =
        unixLines text ++ '\n' :: '\n' :: unixLines (next ++ appended texts) := by
      rw [unixLines_append fun hlast => absurd hlast htext.stop]
      rfl
    rw [hsplit, covered_append (hnext.head _),
      ih hnext fun t ht => htexts t (List.mem_cons_of_mem _ ht), List.forall_mem_cons (a := text)]

/-- What the display makes of a prompt with instructions behind it. -/
theorem shown_appended_iff {user : List Char} (hunix : UnixText user) (hshown : AllShown user)
    (htext : Solid text) (htexts : ∀ text ∈ texts, Solid text) :
    trimChars (['\n', '\n'].intercalate
        (shown (unixLines (user ++ appended (text :: texts))))) = trimChars user ↔
      ∀ t ∈ text :: texts, Covered (unixLines t) := by
  rw [← covered_appended htext htexts]
  have happended : appended (text :: texts) = '\n' :: '\n' :: (text ++ appended texts) := rfl
  by_cases hreturn : user.getLast? = some '\r'
  · -- A carriage return at the end of the prompt makes a line end of the first line feed.
    obtain ⟨init, rfl⟩ := List.getLast?_eq_some_iff.mp hreturn
    have hinitUnix : UnixText init := fun hbreak =>
      hunix (hbreak.trans (List.prefix_append _ _).isInfix)
    have hblank : Blank ['\r'] := fun c hc => by
      rw [List.mem_singleton.mp hc]
      decide
    have hlines : unixLines (init ++ ['\r'] ++ appended (text :: texts)) =
        init ++ '\n' :: '\n' :: unixLines (text ++ appended texts) := by
      rw [List.append_assoc, unixLines_append fun _ => by simp, hinitUnix.unixLines, happended]
      rfl
    rw [hlines, trimChars_append hblank]
    exact trimChars_shown_iff (htext.head _) hshown.of_concat
  · have hlines : unixLines (user ++ appended (text :: texts)) =
        user ++ '\n' :: '\n' :: unixLines (text ++ appended texts) := by
      rw [unixLines_append fun hlast => absurd hlast hreturn, hunix.unixLines, happended]
      rfl
    rw [hlines]
    exact trimChars_shown_iff (htext.head _) hshown

/-- An instruction that begins with two characters no hidden one begins with is shown. -/
theorem not_covered {c d : Char} {rest : List Char} (hc : isWhiteSpace c = false) (hd : d ≠ '\n')
    (hd' : d ≠ '\r') (hnot : ∀ hidden ∈ hiddenPrefixes, ¬hidden.toList.take 2 <+: [c, d]) :
    ¬Covered (unixLines (c :: d :: rest)) := by
  have hline : c ≠ '\n' ∧ c ≠ '\r' := by
    constructor <;>
    · rintro rfl
      contradiction
  obtain ⟨first, others, hfirst⟩ := exists_paragraphs (unixLines rest)
  have hparts : paragraphs (unixLines (c :: d :: rest)) = (c :: d :: first) :: others := by
    rw [unixLines, unixLines]
    · exact paragraphs_cons (fun h => absurd h hline.1) (paragraphs_cons (fun h => absurd h hd) hfirst)
    · exact fun _ h => absurd h hd'
    · exact fun _ h => absurd h hline.2
  intro hcovered
  rcases hcovered (c :: d :: first) (hparts ▸ List.mem_cons_self) with hhidden | hblank
  · rw [isHidden, List.dropWhile_cons_of_neg (by simp [hc])] at hhidden
    obtain ⟨hidden, hmem, hprefix⟩ := List.any_eq_true.mp hhidden
    exact hnot hidden hmem ((List.isPrefixOf_iff_prefix.mp hprefix).take 2)
  · rw [hblank c List.mem_cons_self] at hc
    contradiction

/-- A hidden instruction without line ends is covered. -/
theorem covered_of_plain (hplain : ∀ c ∈ text, c ≠ '\n' ∧ c ≠ '\r')
    (hhidden : isHidden text = true) : Covered (unixLines text) := by
  have hunix : UnixText text := fun h => by
    have := hplain '\r' (h.subset List.mem_cons_self)
    simp at this
  have hone : paragraphs text = [text] := by
    have hsingle : ∀ text : List Char, (∀ c ∈ text, c ≠ '\n') → paragraphs text = [text] := by
      intro text
      induction text with
      | nil => exact fun _ => rfl
      | cons c text ih =>
        intro h
        exact paragraphs_cons (fun hc => absurd hc (h c List.mem_cons_self))
          (ih fun d hd => h d (List.mem_cons_of_mem _ hd))
    exact hsingle text fun c hc => (hplain c hc).1
  rw [hunix.unixLines]
  intro part hpart
  rw [hone] at hpart
  exact .inl (List.mem_singleton.mp hpart ▸ hhidden)

end Texts

section Inputs

variable {inputs : GenerationInputs} {controls : PromptControls} {language : PromptLanguage}
  {kind value negative : String}

def Plain (text : String) : Prop := ∀ c ∈ text.toList, c ≠ '\n' ∧ c ≠ '\r'

/-- The bytes of a text. A line end is one of them, so they tell without being decoded. -/
def bytes (text : String) : List UInt8 := text.toByteArray.data.toList

theorem bytes_eq (text : String) : bytes text = text.toList.flatMap String.utf8EncodeChar := by
  rw [bytes, ← String.utf8Encode_toList, List.utf8Encode, List.data_toByteArray,
    List.toList_toArray]

theorem plain_of_bytes {text : String}
    (h : (bytes text).all fun b => b.toNat != 10 && b.toNat != 13) : Plain text := by
  rw [List.all_eq_true] at h
  intro c hc
  have hmem : ∀ b ∈ String.utf8EncodeChar c, b ∈ bytes text := fun b hb => by
    rw [bytes_eq]
    exact List.mem_flatMap.mpr ⟨c, hc, hb⟩
  constructor <;>
  · rintro rfl
    have hbyte := h _ (hmem _ List.mem_cons_self)
    contradiction

def Starts (text : String) : Prop := ∃ c rest, text.toList = c :: rest ∧ c ≠ '\n' ∧ c ≠ '\r'

theorem Starts.append {text : String} (h : Starts text) (tail : String) : Starts (text ++ tail) := by
  obtain ⟨c, rest, htext, hc⟩ := h
  exact ⟨c, rest ++ tail.toList, by rw [String.toList_append, htext]; rfl, hc⟩

theorem starts_of_bytes {text : String}
    (h : (bytes text).head?.any fun b => b.toNat != 10 && b.toNat != 13) : Starts text := by
  rw [bytes_eq] at h
  cases htext : text.toList with
  | nil => simp [htext] at h
  | cons c rest =>
    refine ⟨c, rest, htext, ?_, ?_⟩ <;>
    · rintro rfl
      rw [htext] at h
      contradiction

/-- A text that stops with a text whose last byte is no carriage return. -/
theorem Starts.solid {text stop : String} (h : Starts text)
    (hstop : (bytes stop).getLast?.any fun b => b.toNat != 13) : Solid (text ++ stop).toList where
  start := by
    obtain ⟨c, rest, htext, hc⟩ := h.append stop
    exact ⟨c, rest, htext, hc⟩
  stop := by
    intro hlast
    rw [bytes_eq] at hstop
    rw [String.toList_append] at hlast
    rcases List.eq_nil_or_concat stop.toList with hnil | ⟨init, c, hconcat⟩
    · simp [hnil] at hstop
    · rw [List.concat_eq_append] at hconcat
      rw [hconcat, ← List.append_assoc, List.getLast?_concat] at hlast
      obtain rfl := Option.some.inj hlast
      rw [hconcat, List.flatMap_append] at hstop
      simp [String.utf8EncodeChar] at hstop

theorem labels_plain : (∀ label ∈ chineseLabels ++ englishLabels, Plain label.2.2) ∧
    ∀ label ∈ chineseDefaults ++ englishDefaults, Plain label.2 := by
  have hlabels : (chineseLabels ++ englishLabels).all fun label =>
      (bytes label.2.2).all fun b => b.toNat != 10 && b.toNat != 13 := by
    decide
  have hdefaults : (chineseDefaults ++ englishDefaults).all fun label =>
      (bytes label.2).all fun b => b.toNat != 10 && b.toNat != 13 := by
    decide
  exact ⟨fun label hlabel => plain_of_bytes (List.all_eq_true.mp hlabels label hlabel),
    fun label hlabel => plain_of_bytes (List.all_eq_true.mp hdefaults label hlabel)⟩

theorem plain_append {a b : String} (ha : Plain a) (hb : Plain b) : Plain (a ++ b) := by
  intro c hc
  rw [String.toList_append] at hc
  rcases List.mem_append.mp hc with hc | hc
  · exact ha c hc
  · exact hb c hc

theorem plain_intercalate {sep : String} {parts : List String} (hsep : Plain sep)
    (hparts : ∀ part ∈ parts, Plain part) : Plain (sep.intercalate parts) := by
  induction parts with
  | nil => exact fun c hc => absurd hc List.not_mem_nil
  | cons part parts ih =>
    have hpart := hparts part List.mem_cons_self
    have hrest := ih fun part hpart => hparts part (List.mem_cons_of_mem _ hpart)
    cases parts with
    | nil =>
      rw [String.intercalate_singleton]
      exact hpart
    | cons next parts =>
      rw [String.intercalate_cons_cons]
      exact plain_append (plain_append hpart hsep) hrest

theorem controlLabel_plain (kind value : String) (language : PromptLanguage) :
    Plain (controlLabel kind value language) := by
  have hempty : Plain "" := fun c hc => absurd hc List.not_mem_nil
  have hlookup : ∀ defaults : List (String × String), (∀ label ∈ defaults, Plain label.2) →
      Plain ((defaults.lookup kind).getD "") := by
    intro defaults h
    cases hfound : defaults.lookup kind with
    | none => exact hempty
    | some label =>
      obtain ⟨before, after, heq, -⟩ := List.lookup_eq_some_iff.mp hfound
      exact h (kind, label) (heq ▸ List.mem_append_right _ List.mem_cons_self)
  obtain ⟨hlabels, hdefaults⟩ := labels_plain
  unfold controlLabel
  split
  · exact hempty
  · cases language with
    | chinese =>
      dsimp only
      split
      · rename_i label hfound
        exact hlabels label (List.mem_append_left _ (List.mem_of_find?_eq_some hfound))
      · exact hlookup _ fun label hlabel => hdefaults label (List.mem_append_left _ hlabel)
    | english =>
      dsimp only
      split
      · rename_i label hfound
        exact hlabels label (List.mem_append_right _ (List.mem_of_find?_eq_some hfound))
      · exact hlookup _ fun label hlabel => hdefaults label (List.mem_append_right _ hlabel)

theorem promptControlsText_plain (controls : PromptControls) (language : PromptLanguage) :
    Plain (promptControlsText controls language) := by
  refine plain_intercalate (plain_of_bytes rfl) fun part hpart => ?_
  obtain ⟨entry, -, rfl⟩ := List.mem_map.mp (List.mem_of_mem_filter hpart)
  exact controlLabel_plain entry.1 entry.2 language

namespace GenerationInputs

/-- The texts behind the prompt, with the rule at the end. -/
def controlsTexts (inputs : GenerationInputs) : List String :=
  let controlsText := promptControlsText inputs.controls inputs.language
  if controlsText = "" then []
  else match inputs.language with
    | .chinese => ["生成控制：" ++ controlsText]
    | .english => ["Generation controls: " ++ controlsText]

def quoteTexts (inputs : GenerationInputs) : List String :=
  if inputs.quote.isEmpty then [] else [inputs.quote.instruction inputs.language]

def negativeTexts (inputs : GenerationInputs) : List String :=
  let negativePrompt := trim inputs.negativePrompt
  if negativePrompt = "" then []
  else match inputs.language with
    | .chinese => ["反向提示词（画面中必须避免出现）：" ++ negativePrompt ++ "。"]
    | .english => ["Negative prompt (must not appear in the image): " ++ negativePrompt ++ "."]

def rule (inputs : GenerationInputs) : String :=
  parameterRule inputs.category inputs.ratio inputs.quality inputs.language

def texts (inputs : GenerationInputs) : List (List Char) :=
  (inputs.controlsTexts ++ inputs.quoteTexts ++ inputs.negativeTexts ++ [inputs.rule]).map
    String.toList

end GenerationInputs

theorem promptWithControls_toList (prompt : String) (inputs : GenerationInputs) :
    (promptWithControls prompt inputs.controls inputs.language).toList =
      prompt.toList ++ appended (inputs.controlsTexts.map String.toList) := by
  unfold promptWithControls GenerationInputs.controlsTexts
  dsimp only
  split
  · simp [appended]
  · cases inputs.language <;> simp [appended, String.toList_append]

theorem appendNegative_toList (prompt : String) (inputs : GenerationInputs) :
    (appendNegativePromptInstruction prompt inputs.negativePrompt inputs.language).toList =
      prompt.toList ++ appended (inputs.negativeTexts.map String.toList) := by
  unfold appendNegativePromptInstruction GenerationInputs.negativeTexts
  dsimp only
  split
  · simp [appended]
  · cases inputs.language <;> simp [appended, String.toList_append]

/-- What is sent is the prompt and the instructions, each behind a blank line. -/
theorem build_toList (prompt : String) (inputs : GenerationInputs) :
    (inputs.build prompt).toList = prompt.toList ++ appended inputs.texts := by
  have hquote : ∀ prompt : String, (if inputs.quote.isEmpty then prompt
      else prompt ++ "\n\n" ++ inputs.quote.instruction inputs.language).toList =
      prompt.toList ++ appended (inputs.quoteTexts.map String.toList) := by
    intro prompt
    unfold GenerationInputs.quoteTexts
    split <;> simp [appended, String.toList_append]
  rw [GenerationInputs.build, buildGenerationPrompt, appendParameterPriorityInstruction,
    String.toList_append, String.toList_append, appendNegative_toList, hquote,
    promptWithControls_toList]
  simp [GenerationInputs.texts, GenerationInputs.rule, appended, List.flatMap_append]

set_option maxRecDepth 8000 in
theorem rule_solid (inputs : GenerationInputs) : Solid inputs.rule.toList := by
  unfold GenerationInputs.rule parameterRule
  have stops {text stop : String} (hstart : Starts text)
      (hstop : ((bytes stop).getLast?.any fun b => b.toNat != 13) = true) :
      Solid (text ++ stop).toList := hstart.solid hstop
  split
  · cases inputs.language with
    | chinese =>
      exact stops ((((starts_of_bytes (by decide)).append _).append _).append _)
        (by decide)
    | english =>
      exact stops ((((starts_of_bytes (by decide)).append _).append _).append _)
        (by decide)
  · cases inputs.language with
    | chinese =>
      exact stops ((((((starts_of_bytes (by decide)).append _).append _).append _).append
        _).append _) (by decide)
    | english =>
      exact stops ((((((starts_of_bytes (by decide)).append _).append _).append _).append
        _).append _) (by decide)

theorem Plain.solid {text : String} (h : Plain text) (hstart : Starts text) : Solid text.toList where
  start := hstart
  stop hlast := (h '\r' (List.mem_of_getLast? hlast)).2 rfl

theorem isHidden_prefix {hidden : String} (hmem : hidden ∈ hiddenPrefixes) (rest : List Char) :
    isHidden (hidden.toList ++ rest) = true := by
  have hstart : ∀ hidden ∈ hiddenPrefixes,
      (hidden.toList.head?.any fun c => !isWhiteSpace c) = true := by decide
  have hkept : (hidden.toList ++ rest).dropWhile isWhiteSpace = hidden.toList ++ rest := by
    have hhead := hstart hidden hmem
    cases htext : hidden.toList with
    | nil => simp [htext] at hhead
    | cons c text =>
      rw [htext] at hhead
      rw [List.cons_append, List.dropWhile_cons_of_neg (by simpa using hhead)]
  rw [isHidden, hkept]
  exact List.any_eq_true.mpr ⟨hidden, hmem, List.isPrefixOf_iff_prefix.mpr (List.prefix_append _ _)⟩

/-- The instruction about the controls is hidden, whatever they are. -/
theorem controls_covered (inputs : GenerationInputs) :
    ∀ text ∈ inputs.controlsTexts, Solid text.toList ∧ Covered (unixLines text.toList) := by
  intro text htext
  have hplain := promptControlsText_plain inputs.controls inputs.language
  unfold GenerationInputs.controlsTexts at htext
  dsimp only at htext
  split at htext
  · cases htext
  · cases hlanguage : inputs.language with
    | chinese =>
      rw [hlanguage] at htext hplain
      obtain rfl := List.mem_singleton.mp htext
      have htext : Plain ("生成控制：" ++ _) := plain_append (plain_of_bytes (by decide)) hplain
      refine ⟨htext.solid ((starts_of_bytes (by decide)).append _), covered_of_plain htext ?_⟩
      rw [String.toList_append]
      exact isHidden_prefix (by decide) _
    | english =>
      rw [hlanguage] at htext hplain
      obtain rfl := List.mem_singleton.mp htext
      have htext : Plain ("Generation controls: " ++ _) :=
        plain_append (plain_of_bytes (by decide)) hplain
      refine ⟨htext.solid ((starts_of_bytes (by decide)).append _), covered_of_plain htext ?_⟩
      rw [String.toList_append, show "Generation controls: ".toList =
        "Generation controls:".toList ++ [' '] from rfl, List.append_assoc]
      exact isHidden_prefix (by decide) _

/-- An instruction that the display does not know stays. -/
theorem shown_instruction {text stop : String} {c d : Char}
    (hhead : ∃ rest, text.toList = c :: d :: rest)
    (hc : isWhiteSpace c = false ∧ c ≠ '\n' ∧ c ≠ '\r') (hd : d ≠ '\n' ∧ d ≠ '\r')
    (hnot : ∀ hidden ∈ hiddenPrefixes, ¬hidden.toList.take 2 <+: [c, d])
    (hstop : (bytes stop).getLast?.any fun b => b.toNat != 13) :
    Solid (text ++ stop).toList ∧ ¬Covered (unixLines (text ++ stop).toList) := by
  obtain ⟨rest, hrest⟩ := hhead
  refine ⟨Starts.solid ⟨c, d :: rest, hrest, hc.2⟩ hstop, ?_⟩
  rw [String.toList_append, hrest]
  exact not_covered hc.1 hd.1 hd.2 hnot

theorem quote_not_covered (inputs : GenerationInputs) :
    ∀ text ∈ inputs.quoteTexts, Solid text.toList ∧ ¬Covered (unixLines text.toList) := by
  intro text htext
  unfold GenerationInputs.quoteTexts QuoteContext.instruction at htext
  split at htext
  · cases htext
  · obtain rfl := List.mem_singleton.mp htext
    cases inputs.language with
    | chinese =>
      refine shown_instruction (c := '参') (d := '考')
        ⟨_, by simp only [String.toList_append, List.append_assoc]; rfl⟩ ?_ ?_ ?_ ?_ <;> decide
    | english =>
      refine shown_instruction (c := 'R') (d := 'e')
        ⟨_, by simp only [String.toList_append, List.append_assoc]; rfl⟩ ?_ ?_ ?_ ?_ <;> decide

theorem negative_not_covered (inputs : GenerationInputs) :
    ∀ text ∈ inputs.negativeTexts, Solid text.toList ∧ ¬Covered (unixLines text.toList) := by
  intro text htext
  unfold GenerationInputs.negativeTexts at htext
  dsimp only at htext
  split at htext
  · cases htext
  · cases hlanguage : inputs.language with
    | chinese =>
      rw [hlanguage] at htext
      obtain rfl := List.mem_singleton.mp htext
      refine shown_instruction (c := '反') (d := '向')
        ⟨_, by simp only [String.toList_append]; rfl⟩ ?_ ?_ ?_ ?_ <;> decide
    | english =>
      rw [hlanguage] at htext
      obtain rfl := List.mem_singleton.mp htext
      refine shown_instruction (c := 'N') (d := 'e')
        ⟨_, by simp only [String.toList_append]; rfl⟩ ?_ ?_ ?_ ?_ <;> decide

theorem covered_texts_iff (inputs : GenerationInputs) :
    (∀ text ∈ inputs.texts, Covered (unixLines text)) ↔ inputs.OnlyHidden := by
  have hquote : (∀ text ∈ inputs.quoteTexts, Covered (unixLines text.toList)) ↔
      inputs.quote.isEmpty = true := by
    have hnot := quote_not_covered inputs
    unfold GenerationInputs.quoteTexts at *
    split
    · simp [*]
    · rename_i hempty
      rw [if_neg hempty] at hnot
      simpa [hempty] using (hnot _ (List.mem_singleton_self _)).2
  have hnegative : (∀ text ∈ inputs.negativeTexts, Covered (unixLines text.toList)) ↔
      trim inputs.negativePrompt = "" := by
    have hnot := negative_not_covered inputs
    refine ⟨fun h => ?_, fun h => ?_⟩
    · by_contra hne
      have hmem : ∃ text, text ∈ inputs.negativeTexts := by
        unfold GenerationInputs.negativeTexts
        dsimp only
        rw [if_neg hne]
        cases inputs.language <;> exact ⟨_, List.mem_singleton_self _⟩
      obtain ⟨text, htext⟩ := hmem
      exact (hnot text htext).2 (h text htext)
    · unfold GenerationInputs.negativeTexts
      dsimp only
      rw [if_pos h]
      exact fun text htext => absurd htext List.not_mem_nil
  have hcontrols := controls_covered inputs
  simp only [GenerationInputs.texts, List.map_append, List.forall_mem_append, List.forall_mem_map,
    hquote, hnegative, List.mem_singleton, forall_eq, GenerationInputs.OnlyHidden,
    GenerationInputs.rule]
  rw [and_assoc, and_assoc, and_iff_right fun text htext => (hcontrols text htext).2]

theorem texts_solid (inputs : GenerationInputs) : ∀ text ∈ inputs.texts, Solid text := by
  simp only [GenerationInputs.texts, List.map_append, List.forall_mem_append, List.forall_mem_map,
    List.mem_singleton, forall_eq]
  exact ⟨⟨⟨fun text htext => (controls_covered inputs text htext).1,
    fun text htext => (quote_not_covered inputs text htext).1⟩,
    fun text htext => (negative_not_covered inputs text htext).1⟩, rule_solid inputs⟩

theorem stored_eq_trim_iff (hunix : UnixText prompt.toList) (hshown : AllShown prompt.toList)
    (inputs : GenerationInputs) : inputs.stored prompt = trim prompt ↔ inputs.OnlyHidden := by
  rw [← covered_texts_iff, GenerationInputs.stored, ← String.toList_inj,
    displayGenerationPrompt_toList, trim_toList, build_toList]
  have hsolid := texts_solid inputs
  cases htexts : inputs.texts with
  | nil => simp [GenerationInputs.texts] at htexts
  | cons text texts =>
    rw [htexts, List.forall_mem_cons] at hsolid
    exact shown_appended_iff hunix hshown hsolid.1 hsolid.2

/-- The stored prompt is the prompt of the user exactly when the inputs have only instructions that
the display hides, and so it is however often a generation starts again from what is stored. -/
theorem stored_prompts_are_the_users_iff (prompt : String) (hunix : UnixText prompt.toList)
    (hshown : AllShown prompt.toList) :
    (∀ inputs : GenerationInputs, inputs.stored prompt = trim prompt ↔ inputs.OnlyHidden) ∧
    ∀ again : List GenerationInputs,
      (∀ stored ∈ storedPrompts prompt again, stored = trim prompt) ↔
        ∀ inputs ∈ again, inputs.OnlyHidden := by
  refine ⟨fun inputs => stored_eq_trim_iff hunix hshown inputs, fun again => ?_⟩
  induction again generalizing prompt with
  | nil => simp [storedPrompts]
  | cons inputs again ih =>
    have htrimmed : UnixText (trim prompt).toList := by
      obtain ⟨left, right, -, -, hsplit⟩ := trimChars_split prompt.toList
      rw [trim_toList]
      exact fun hbreak => hunix (hbreak.trans ⟨left, right, by
        rw [List.append_assoc]
        exact hsplit.symm⟩)
    have hshown' : AllShown (trim prompt).toList := by
      rw [trim_toList]
      exact hshown.trimChars
    rw [storedPrompts, List.forall_mem_cons, List.forall_mem_cons, stored_eq_trim_iff hunix hshown]
    refine and_congr_right fun hhidden => ?_
    rw [(stored_eq_trim_iff hunix hshown inputs).mpr hhidden, trim_trim]
    simpa only [trim_trim] using ih (trim prompt) htrimmed hshown'

end Inputs

/-- Inputs without a quote and without controls. -/
def negativeInputs (negativePrompt : String) : GenerationInputs where
  negativePrompt := negativePrompt
  controls := { category := "scene" }
  quote := {}
  category := "scene"
  ratio := "16:9"
  quality := "2K"
  language := .english

theorem villagePrompt_unix : UnixText "misty village".toList := by
  unfold UnixText
  decide

theorem villagePrompt_shown : AllShown "misty village".toList := by
  unfold AllShown
  decide

/-- The prompt with an empty negative prompt, twice. -/
theorem stored_prompts_are_the_users_village :
    ((negativeInputs "").stored "misty village" = trim "misty village" ↔
      (negativeInputs "").OnlyHidden) ∧
    ((∀ stored ∈ storedPrompts "misty village" [negativeInputs "", negativeInputs ""],
        stored = trim "misty village") ↔
      ∀ inputs ∈ [negativeInputs "", negativeInputs ""], inputs.OnlyHidden) :=
  ⟨(stored_prompts_are_the_users_iff "misty village" villagePrompt_unix villagePrompt_shown).1 _,
    (stored_prompts_are_the_users_iff "misty village" villagePrompt_unix villagePrompt_shown).2 _⟩

/-- A negative prompt is stored with the prompt. -/
theorem negative_prompt_is_stored :
    (negativeInputs "watermark").stored "misty village" ≠ trim "misty village" := by
  rw [Ne, stored_eq_trim_iff villagePrompt_unix villagePrompt_shown]
  rintro ⟨-, hnegative, -⟩
  have hempty : trim "watermark" ≠ "" := by decide +kernel
  exact hempty hnegative

end ArtForgeStudio.Prompts
