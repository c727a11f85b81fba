import ArtForgeStudio.Deliveries.Assets
import ArtForgeStudio.Library.Stretches

/-! # The models of a gallery

A gallery shows its assets in a flat model and in a model of groups, one for each stretch of assets
with the same date label. A page more is appended to both in place: what the page brings is grouped
by itself, and its first group continues the last one that is shown if they have the same title.
-/

namespace ArtForgeStudio.Gallery

open ArtForgeStudio.Api ArtForgeStudio.Deliveries ArtForgeStudio.Stretches

/-- A `VecModel`, or a model of another kind, which only answers for its rows. -/
inductive Model (A : Type)
  | vecModel (rows : List A)
  | other (rowCount : Nat) (rowData : Nat → Option A)

namespace Model

variable {A : Type}

def rowCount : Model A → Nat
  | vecModel rows => rows.length
  | other rowCount _ => rowCount

def rowData : Model A → Nat → Option A
  | vecModel rows, row => rows[row]?
  | other _ rowData, row => rowData row

/-- The rows in turn, up to the first that is not there. -/
def iter : Model A → List A
  | vecModel rows => rows
  | other rowCount rowData =>
    ((List.range rowCount).map rowData).takeWhile (·.isSome) |>.filterMap id

end Model

structure AssetItem (Image : Type) where
  id : String
  title : String
  category : String
  kind : String
  time : String
  prompt : String
  ratio : String
  quality : String
  model : String
  width : Int
  height : Int
  image : Image
  sourcePath : String
  dragUri : String
  cutoutDone : Bool
  removeBlackDone : Bool
  upscaleDone : Bool
  isNew : Bool
  deliveryRecoverable : Bool
  deliveryDownloading : Bool
  selected : Bool

structure AssetGroup (Image : Type) where
  title : String
  items : Model (AssetItem Image)

/-- What the calendar and the platform provide: dates, the empty image and file addresses. -/
structure Platform (Image Date : Type) where
  parseDate : String → Option Date
  dayBefore : Date → Date
  year : Date → Int
  month : Date → Nat
  day : Date → Nat
  defaultImage : Image
  fileUriForPath : String → String

section Presentation

variable {Image Date : Type} [DecidableEq Date] (platform : Platform Image Date) (today : Date)
  (language : String)

/-- `time.split_whitespace().next()`, empty if there is no word. -/
def firstWord (time : String) : String :=
  String.ofList ((time.toList.dropWhile isWhiteSpace).takeWhile fun c => !isWhiteSpace c)

def timeGroupLabel (time : String) : String :=
  let dateText := trim (firstWord time)
  let english : Bool := language = "en"
  match platform.parseDate dateText with
  | some date =>
    let month := platform.month date
    let day := platform.day date
    let year := platform.year date
    if date = today then if english then "Today" else "今天"
    else if date = platform.dayBefore today then if english then "Yesterday" else "昨天"
    else if year = platform.year today then
      if english then s!"{month}/{day}" else s!"{month}月{day}日"
    else if english then s!"{year}/{month}/{day}" else s!"{year}年{month}月{day}日"
  | none =>
    if trimIsEmpty time then if english then "Unknown date" else "未知日期"
    else trim time

def toAssetViewMetadata (asset : AssetData) : AssetItem Image where
  id := asset.id
  title := asset.title
  category := asset.category
  kind := asset.kind
  time := asset.time
  prompt := asset.prompt
  ratio := asset.ratio
  quality := asset.quality
  model := asset.model
  width := asset.width
  height := asset.height
  image := platform.defaultImage
  sourcePath := asset.sourcePath
  dragUri := platform.fileUriForPath asset.sourcePath
  cutoutDone := asset.cutoutDone
  removeBlackDone := asset.removeBlackDone
  upscaleDone := asset.upscaleDone
  isNew := asset.isNew
  deliveryRecoverable := asset.deliveryRecoverable
  deliveryDownloading := asset.deliveryDownloading
  selected := false

/-- The pictures that are there already, by id and source path. -/
abbrev Previews (Image : Type) := String → String → Option Image

def toAssetViewWithPreviews (previews : Previews Image) (asset : AssetData) : AssetItem Image :=
  let item := toAssetViewMetadata platform asset
  match previews asset.id asset.sourcePath with
  | some image => { item with image }
  | none => item

def groupAssetViewsWithPreviews (previews : Previews Image) (items : List AssetData) :
    List (AssetGroup Image) :=
  (cut (fun asset => timeGroupLabel platform today language asset.time)
    (toAssetViewWithPreviews platform previews) items).map fun group =>
      { title := group.1, items := .vecModel group.2 }

def groupedGalleryData (items : List AssetData) : List (String × List AssetData) :=
  cut (fun item => timeGroupLabel platform today language item.time) id items

def galleryViewMatchesData (view : AssetItem Image) (data : AssetData) : Bool :=
  view.id = data.id && view.sourcePath = data.sourcePath && view.time = data.time &&
    view.width = data.width && view.height = data.height

/-- As many rows as expected, and each agrees with its own. -/
def rowsMatch {A B : Type} (agrees : A → B → Bool) (model : Model A) (expected : List B) : Bool :=
  model.rowCount = expected.length && expected.zipIdx.all fun entry =>
    (model.rowData entry.2).any fun row => agrees row entry.1

structure GalleryModels (Image : Type) where
  flat : Model (AssetItem Image)
  groups : Option (Model (AssetGroup Image))

def galleryModelsMatchPrefix (models : GalleryModels Image) (expected : List AssetData) : Bool :=
  rowsMatch galleryViewMatchesData models.flat expected &&
    match models.groups with
    | none => true
    | some groups =>
      rowsMatch (fun group entry => group.title = entry.1 &&
        rowsMatch galleryViewMatchesData group.items entry.2) groups
        (groupedGalleryData platform today language expected)

def lastRow {A : Type} (model : Model A) : Option A :=
  if model.rowCount = 0 then none else model.rowData (model.rowCount - 1)

/-- Whether the page was appended, and the models after the call. -/
def tryAppendGalleryModels (models : GalleryModels Image)
    (expectedExisting appended : List AssetData) : Bool × GalleryModels Image :=
  if !galleryModelsMatchPrefix platform today language models expectedExisting then (false, models)
  else if appended.isEmpty then (true, models)
  else match models.flat with
    | .other _ _ => (false, models)
    | .vecModel rows =>
      let extended := .vecModel (rows ++ appended.map (toAssetViewMetadata platform))
      match models.groups with
      | none => (true, { flat := extended, groups := none })
      | some (.other _ _) => (false, models)
      | some (.vecModel groupRows) =>
        let appendedGroups := groupAssetViewsWithPreviews platform today language
          (fun _ _ => none) appended
        let mergeTail := (lastRow (.vecModel groupRows)).filter fun tail =>
          appendedGroups.head?.any fun first => first.title = tail.title
        match mergeTail, appendedGroups with
        | some tail, first :: rest =>
          match tail.items with
          | .other _ _ => (false, models)
          | .vecModel tailItems =>
            let merged := { tail with items := .vecModel (tailItems ++ first.items.iter) }
            (true, { flat := extended,
                     groups := some (.vecModel (groupRows.dropLast ++ [merged] ++ rest)) })
        | _, _ =>
          (true, { flat := extended, groups := some (.vecModel (groupRows ++ appendedGroups)) })

/-- The pages of a list one after the other, up to one that is refused. -/
def appendPages (models : GalleryModels Image) (existing : List AssetData) :
    (pages : List (List AssetData)) → Bool × GalleryModels Image
  | [] => (true, models)
  | page :: pages =>
    let (success, next) := tryAppendGalleryModels platform today language models existing page
    if success then appendPages next (existing ++ page) pages else (false, next)

/-- The models of a list that is built at once. -/
def buildGallery (grouped : Bool) (items : List AssetData) : GalleryModels Image where
  flat := .vecModel (items.map (toAssetViewMetadata platform))
  groups := if grouped then
      some (.vecModel (groupAssetViewsWithPreviews platform today language (fun _ _ => none) items))
    else none

end Presentation

end ArtForgeStudio.Gallery
