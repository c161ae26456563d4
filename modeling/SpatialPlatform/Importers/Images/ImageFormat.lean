import Mathlib.Data.List.DropRight
import SpatialPlatform.Core.Sha256
import SpatialPlatform.Lib.Checked

/-!
# Image formats

`importers/images/image_format.{h,cpp}`: the format of a file from its first
bytes, and its geometry from its header. A function gets the bytes of a buffer
and the number of them it may read; every read and every computed offset is
checked.
-/

namespace SpatialPlatform.Importers

open SpatialPlatform.Core SpatialPlatform.Lib SpatialPlatform.Lib.Checked

/-- `ImageFormat`. -/
inductive ImageFormat where
  | unknown
  | jpeg
  | png
  | tiff
  | exr
  | raw
  deriving DecidableEq, Repr

/-- `ImageHeaderInfo`. -/
structure ImageHeaderInfo where
  format : ImageFormat := .unknown
  width : Int := 0
  height : Int := 0
  pixelFormat : String := ""
  mimeType : String := ""
  deriving DecidableEq, Repr

def kMaxHeaderSize : Nat := 2 ^ 20

/-! ## Readers -/

/-- `ReadU16`. -/
def readU16 (data : List UInt8) (size off : Nat) (little : Bool) : Checked (Option UInt16) := do
  if size < off then return none
  else
    let rest ← minus size off
    if rest < 2 then return none
    else
      let a ← readAt data off
      let off₁ ← plus off 1
      let b ← readAt data off₁
      return some (if little then a.toUInt16 ||| b.toUInt16 <<< 8 else b.toUInt16 ||| a.toUInt16 <<< 8)

/-- Four bytes as a number, the lowest first. -/
def littleU32 (a b c d : UInt8) : UInt32 :=
  a.toUInt32 ||| b.toUInt32 <<< 8 ||| c.toUInt32 <<< 16 ||| d.toUInt32 <<< 24

/-- `ReadU32`. -/
def readU32 (data : List UInt8) (size off : Nat) (little : Bool) : Checked (Option UInt32) := do
  if size < off then return none
  else
    let rest ← minus size off
    if rest < 4 then return none
    else
      let a ← readAt data off
      let off₁ ← plus off 1
      let b ← readAt data off₁
      let off₂ ← plus off 2
      let c ← readAt data off₂
      let off₃ ← plus off 3
      let d ← readAt data off₃
      return some (if little then littleU32 a b c d else littleU32 d c b a)

/-- The offset after a run of bytes. -/
def scan (p : UInt8 → Bool) (data : List UInt8) (size off : Nat) : Checked Nat :=
  iterate (fun off => do
    if off < size then
      let byte ← readAt data off
      if p byte then
        let off ← plus off 1
        return .inl off
      else return .inr off
    else return .inr off) (size + 1) off

/-! ## Magic bytes -/

/-- `IsJpeg`. -/
def isJpeg (data : List UInt8) (size : Nat) : Checked Bool := do
  if size < 3 then return false
  else
    let a ← readAt data 0
    let b ← readAt data 1
    let c ← readAt data 2
    return a = 0xFF && b = 0xD8 && c = 0xFF

def kPngMagic : List UInt8 := [0x89, 0x50, 0x4E, 0x47, 0x0D, 0x0A, 0x1A, 0x0A]

/-- `IsPng`. -/
def isPng (data : List UInt8) (size : Nat) : Checked Bool := do
  if size < 8 then return false
  else
    let magic ← readRange data 0 8
    return magic = kPngMagic

/-- `TiffLittleEndian`. -/
def tiffLittleEndian (data : List UInt8) : Checked Bool := do
  let a ← readAt data 0
  let b ← readAt data 1
  return a = 0x49 && b = 0x49

/-- `IsTiff`. -/
def isTiff (data : List UInt8) (size : Nat) : Checked Bool := do
  if size < 8 then return false
  else
    let little ← tiffLittleEndian data
    let a ← readAt data 0
    let b ← readAt data 1
    if !little && !(a = 0x4D && b = 0x4D) then return false
    else
      let magic ← readU16 data size 2 little
      return magic = some 42

/-- `IsExr`. -/
def isExr (data : List UInt8) (size : Nat) : Checked Bool := do
  if size < 4 then return false
  else
    let a ← readAt data 0
    let b ← readAt data 1
    let c ← readAt data 2
    let d ← readAt data 3
    return a = 0x76 && b = 0x2F && c = 0x31 && d = 0x01

/-! ## TIFF directories

A directory is read by one loop with a callback. Here the callback is a function
on what it has captured, and reads are checked ones. -/

/-- `TiffIfdEntry`, as `ForEachTiffEntry` fills it. -/
structure TiffIfdEntry where
  tag : UInt16
  type : UInt16
  count : UInt32
  valueOff : Nat
  valueSize : Nat
  deriving DecidableEq, Repr

def kTagImageWidth : UInt16 := 0x0100
def kTagImageLength : UInt16 := 0x0101
def kTagBitsPerSample : UInt16 := 0x0102
def kTagMake : UInt16 := 0x010F
def kTagSamplesPerPixel : UInt16 := 0x0115
def kTagDngVersion : UInt16 := 0xC612

/-- The size of a value of a field type; none is supported with size zero. -/
def typeSize (type : UInt16) : Nat :=
  if type = 1 then 1 else if type = 2 then 1 else if type = 3 then 2 else if type = 4 then 4 else 0

/-- One entry of a directory, unless it is malformed. -/
def tiffEntry (data : List UInt8) (size base : Nat) (little : Bool) :
    Checked (Option TiffIfdEntry) := do
  let fin ← plus base 12
  if size < fin then return none
  else
    let tag ← readU16 data size base little
    let typeOff ← plus base 2
    let type ← readU16 data size typeOff little
    let countOff ← plus base 4
    let count ← readU32 data size countOff little
    let field ← plus base 8
    match tag, type, count with
    | some tag, some type, some count =>
        if typeSize type = 0 then return none
        else
          let total ← cast 64 (count.toNat * typeSize type)
          if total ≤ 4 then
            -- the value is in the field, whose offset is cut to 32 bits
            let valueOff ← cast 32 field
            return some ⟨tag, type, count, valueOff, total⟩
          else
            match ← readU32 data size field little with
            | none => return none
            | some off => return some ⟨tag, type, count, off.toNat, total⟩
    | _, _, _ => return none

/-- One round of the loop over the entries. -/
def tiffRound {S : Type} (data : List UInt8) (size ifdOff : Nat) (little : Bool)
    (onEntry : TiffIfdEntry → S → Checked S) (count : Nat) :
    Nat × S → Checked ((Nat × S) ⊕ S)
  | (i, s) => do
      if count ≤ i then return .inr s
      else
        let first ← plus ifdOff 2
        let base ← plus first (i * 12)
        match ← tiffEntry data size base little with
        | none => return .inr s
        | some entry =>
            let s ← onEntry entry s
            return .inl (i + 1, s)

/-- `ForEachTiffEntry`, with what `on_entry` has captured as a state. Both
callbacks return true, and nobody looks at what the loop returns. -/
def forEachTiffEntry {S : Type} (data : List UInt8) (size ifdOff : Nat) (little : Bool)
    (onEntry : TiffIfdEntry → S → Checked S) (s : S) : Checked S := do
  match ← readU16 data size ifdOff little with
  | none => return s
  | some count =>
      iterate (tiffRound data size ifdOff little onEntry count.toNat) (count.toNat + 1) (0, s)

/-- `ReadTiffTagValue`. -/
def readTiffTagValue (e : TiffIfdEntry) (data : List UInt8) (size : Nat) (little : Bool) :
    Checked (Option Nat) := do
  if e.type = 3 then
    let v ← readU16 data size e.valueOff little
    return v.map (·.toNat)
  else if e.type = 4 then
    let v ← readU32 data size e.valueOff little
    return v.map (·.toNat)
  else return none

/-- `ReadTiffAscii`. -/
def readTiffAscii (e : TiffIfdEntry) (data : List UInt8) (size : Nat) : Checked (List UInt8) := do
  if e.type ≠ 2 then return []
  else if size ≤ e.valueOff then return []
  else
    let rest ← minus size e.valueOff
    let text ← readRange data e.valueOff (min e.valueSize rest)
    return text.rdropWhile (· = 0)

/-- `rfind(text, 0) == 0`. -/
def hasPrefix (text : String) (make : List UInt8) : Bool := (stringBytes text).isPrefixOf make

/-- The mark of a CR2 file. -/
def isCr2 (data : List UInt8) (size : Nat) : Checked Bool := do
  if size < 10 then return false
  else
    let a ← readAt data 8
    let b ← readAt data 9
    return a = 0x43 && b = 0x52

/-- What `ClassifyTiffContainer` collects. -/
structure ContainerTags where
  make : List UInt8 := []
  hasDng : Bool := false
  deriving DecidableEq, Repr

/-- The callback of `ClassifyTiffContainer`. -/
def classifyEntry (data : List UInt8) (size : Nat) (e : TiffIfdEntry) (s : ContainerTags) :
    Checked ContainerTags := do
  let s := if e.tag = kTagDngVersion then { s with hasDng := true } else s
  if e.tag = kTagMake then
    let make ← readTiffAscii e data size
    return { s with make }
  else return s

/-- `ClassifyTiffContainer`. -/
def classifyTiffContainer (data : List UInt8) (size : Nat) : Checked ImageFormat := do
  let little ← tiffLittleEndian data
  match ← readU32 data size 4 little with
  | none => return .tiff
  | some ifdOff =>
      if ← isCr2 data size then return .raw
      else
        let s ← forEachTiffEntry data size ifdOff.toNat little (classifyEntry data size) {}
        if s.hasDng then return .raw
        else if hasPrefix "NIKON" s.make || hasPrefix "SONY" s.make || hasPrefix "Canon" s.make then
          return .raw
        else return .tiff

/-! ## JPEG

The scanner goes from marker to marker, until it finds a frame header or loses
its way. -/

/-- A marker without a length. -/
def isStandalone (marker : UInt8) : Bool :=
  marker = 0xD8 || marker = 0xD9 || marker = 0xDA || (0xD0 ≤ marker && marker ≤ 0xD7)

/-- The marker of a frame header. -/
def isSof (marker : UInt8) : Bool :=
  0xC0 ≤ marker && marker ≤ 0xCF && marker ≠ 0xC4 && marker ≠ 0xC8

/-- The channels of a JPEG or TIFF, which alone a name is chosen by. -/
def channelsName (components : Nat) : String :=
  if components = 1 then "gray" else if components = 4 then "rgba" else "rgb"

/-- The geometry in a frame header, after its marker. -/
def readSof (data : List UInt8) (size off : Nat) : Checked (Option ImageHeaderInfo) := do
  let fin ← plus off 8
  if size < fin then return none
  else
    let off₂ ← plus off 2
    let precision ← readAt data off₂
    let off₃ ← plus off 3
    let h₁ ← readAt data off₃
    let off₄ ← plus off 4
    let h₀ ← readAt data off₄
    let off₅ ← plus off 5
    let w₁ ← readAt data off₅
    let off₆ ← plus off 6
    let w₀ ← readAt data off₆
    let off₇ ← plus off 7
    let components ← readAt data off₇
    return some {
      format := .jpeg
      width := (w₁.toUInt16 <<< 8 ||| w₀.toUInt16).toNat
      height := (h₁.toUInt16 <<< 8 ||| h₀.toUInt16).toNat
      pixelFormat := channelsName components.toNat ++ toString precision.toNat
      mimeType := "image/jpeg" }

/-- The end of a run of fill bytes. -/
def skipFill (data : List UInt8) (size off : Nat) : Checked Nat := scan (· = 0xFF) data size off

/-- One segment: the geometry, an error or the offset after it. -/
def jpegSegment (data : List UInt8) (size off : Nat) :
    Checked (Nat ⊕ Option ImageHeaderInfo) := do
  let fin ← plus off 4
  if size < fin then return .inr none
  else
    let lead ← readAt data off
    if lead ≠ 0xFF then return .inr none
    else
      let off ← skipFill data size off
      if size ≤ off then return .inr none
      else
        let marker ← readAt data off
        if marker = 0 then return .inr none
        else
          let off ← plus off 1
          if isStandalone marker then return .inl off
          else
            match ← readU16 data size off false with
            | none => return .inr none
            | some len =>
                if len < 2 then return .inr none
                else if isSof marker then
                  let info ← readSof data size off
                  return .inr info
                else
                  let off ← plus off len.toNat
                  return .inl off

/-- `ParseJpeg`. -/
def parseJpeg (data : List UInt8) (size : Nat) : Checked (Option ImageHeaderInfo) :=
  iterate (jpegSegment data size) (size + 1) 2

/-! ## PNG -/

/-- The pixels of a color type. -/
def pngPixelFormat (colorType bitDepth : UInt8) : String :=
  if colorType = 0 then "gray" ++ toString bitDepth.toNat
  else if colorType = 2 then "rgb" ++ toString bitDepth.toNat
  else if colorType = 3 then "palette" ++ toString bitDepth.toNat
  else if colorType = 4 then "graya" ++ toString bitDepth.toNat
  else if colorType = 6 then "rgba" ++ toString bitDepth.toNat
  else "unknown"

/-- Four bytes at a fixed offset, the highest first. -/
def bigU32At (data : List UInt8) (off : Nat) : Checked UInt32 := do
  let a ← readAt data off
  let b ← readAt data (off + 1)
  let c ← readAt data (off + 2)
  let d ← readAt data (off + 3)
  return littleU32 d c b a

/-- `ParsePng`. -/
def parsePng (data : List UInt8) (size : Nat) : Checked (Option ImageHeaderInfo) := do
  if size < 29 then return none
  else
    let len ← bigU32At data 8
    let chunk ← readRange data 12 4
    if chunk ≠ stringBytes "IHDR" ∨ len < 13 then return none
    else
      let rest ← minus size 16
      if rest < 13 then return none
      else
        let width ← bigU32At data 16
        let height ← bigU32At data 20
        let bitDepth ← readAt data 24
        let colorType ← readAt data 25
        return some {
          format := .png
          width := width.toNat
          height := height.toNat
          pixelFormat := pngPixelFormat colorType bitDepth
          mimeType := "image/png" }

/-! ## TIFF

The second callback, and what it makes of a container. -/

/-- What `ParseTiff` collects. -/
structure TiffTags where
  width : Option Nat := none
  height : Option Nat := none
  bits : Nat := 8
  samples : Nat := 1
  tags : ContainerTags := {}
  deriving DecidableEq, Repr

/-- The callback of `ParseTiff`. -/
def parseEntry (data : List UInt8) (size : Nat) (little : Bool) (e : TiffIfdEntry) (s : TiffTags) :
    Checked TiffTags := do
  if e.tag = kTagImageWidth then
    let v ← readTiffTagValue e data size little
    return { s with width := v <|> s.width }
  else if e.tag = kTagImageLength then
    let v ← readTiffTagValue e data size little
    return { s with height := v <|> s.height }
  else if e.tag = kTagBitsPerSample then
    let v ← readTiffTagValue e data size little
    return { s with bits := v.getD s.bits }
  else if e.tag = kTagSamplesPerPixel then
    let v ← readTiffTagValue e data size little
    return { s with samples := v.getD s.samples }
  else if e.tag = kTagMake then
    let make ← readTiffAscii e data size
    return { s with tags := { s.tags with make } }
  else if e.tag = kTagDngVersion then
    return { s with tags := { s.tags with hasDng := true } }
  else return s

/-- The format and the type of a container. -/
def containerType (cr2 : Bool) (tags : ContainerTags) : ImageFormat × String :=
  if cr2 then (.raw, "image/x-canon-cr2")
  else if tags.hasDng then (.raw, "image/x-adobe-dng")
  else if hasPrefix "NIKON" tags.make then (.raw, "image/x-nikon-nef")
  else if hasPrefix "SONY" tags.make then (.raw, "image/x-sony-arw")
  else if hasPrefix "Canon" tags.make then (.raw, "image/x-canon-cr2")
  else (.tiff, "image/tiff")

/-- `ParseTiff`, after the loop. -/
def tiffInfo (cr2 : Bool) (s : TiffTags) : Option ImageHeaderInfo :=
  match s.width, s.height with
  | some width, some height =>
      if width = 0 ∨ height = 0 then none
      else some {
        format := (containerType cr2 s.tags).1
        width
        height
        pixelFormat :=
          (if s.samples = 2 then "graya" else channelsName s.samples) ++ toString s.bits
        mimeType := (containerType cr2 s.tags).2 }
  | _, _ => none

/-- `ParseTiff`. -/
def parseTiff (data : List UInt8) (size : Nat) : Checked (Option ImageHeaderInfo) := do
  let little ← tiffLittleEndian data
  match ← readU32 data size 4 little with
  | none => return none
  | some ifdOff =>
      let cr2 ← isCr2 data size
      let s ← forEachTiffEntry data size ifdOff.toNat little (parseEntry data size little) {}
      return tiffInfo cr2 s

/-! ## OpenEXR

The attributes are a list that ends at an empty name. Names end at a zero byte. -/

/-- The first zero byte from an offset on, or the end. -/
def findNul (data : List UInt8) (size off : Nat) : Checked Nat := scan (· ≠ 0) data size off

/-- `read_cstring`: the string and the offset after it. -/
def readCString (data : List UInt8) (size off : Nat) : Checked (Option (List UInt8 × Nat)) := do
  let fin ← findNul data size off
  if size ≤ fin then return none
  else
    let length ← minus fin off
    let text ← readRange data off length
    let off ← plus fin 1
    return some (text, off)

/-- The state of the loop over the attributes. -/
structure ExrState where
  off : Nat := 8
  window : Option (Int × Int) := none
  sampleType : String := ""
  deriving DecidableEq, Repr

/-- `dataWindow`: the width and the height. -/
def readWindow (data : List UInt8) (size off : Nat) : Checked (Option (Int × Int)) := do
  let x₁ ← readU32 data size off true
  let off₁ ← plus off 4
  let y₁ ← readU32 data size off₁ true
  let off₂ ← plus off 8
  let x₂ ← readU32 data size off₂ true
  let off₃ ← plus off 12
  let y₂ ← readU32 data size off₃ true
  match x₁, y₁, x₂, y₂ with
  | some x₁, some y₁, some x₂, some y₂ =>
      return some (x₂.toInt32.toInt - x₁.toInt32.toInt + 1, y₂.toInt32.toInt - y₁.toInt32.toInt + 1)
  | _, _, _, _ => return none

/-- The name of a pixel type. -/
def sampleTypeName (pixelType : UInt32) : String :=
  if pixelType = 0 then "uint32" else if pixelType = 1 then "float16"
  else if pixelType = 2 then "float32" else "unknown"

/-- `channels`: the sample type of the first one, whose record ends where the attribute does. -/
def readChannels (data : List UInt8) (off fin : Nat) : Checked (Option String) := do
  if fin ≤ off then return none
  else
    let nameEnd ← findNul data fin off
    if fin ≤ nameEnd then return none
    else if nameEnd = off then return none
    else
      let off ← plus nameEnd 1
      let pixelType ← readU32 data fin off true
      return pixelType.map sampleTypeName

/-- One attribute: the state after it, or the end of the header, or an error. -/
def exrAttribute (data : List UInt8) (size : Nat) (s : ExrState) :
    Checked (ExrState ⊕ Option ExrState) := do
  if size ≤ s.off then return .inr (some s)
  else
    match ← readCString data size s.off with
    | none => return .inr none
    | some (name, off) =>
        if name = [] then return .inr (some { s with off })
        else
          match ← readCString data size off with
          | none => return .inr none
          | some (type, off) =>
              match ← readU32 data size off true with
              | none => return .inr none
              | some attrSize =>
                  let dataOff ← plus off 4
                  if size < dataOff then return .inr none
                  else
                    let rest ← minus size dataOff
                    if rest < attrSize.toNat then return .inr none
                    else
                      let fin ← plus dataOff attrSize.toNat
                      if name = stringBytes "dataWindow" ∧ type = stringBytes "box2i" ∧
                          16 ≤ attrSize then
                        let window ← readWindow data size dataOff
                        return .inl { s with off := fin, window := window <|> s.window }
                      else if name = stringBytes "channels" ∧ type = stringBytes "chlist" then
                        let sampleType ← readChannels data dataOff fin
                        return .inl { s with off := fin, sampleType := sampleType.getD s.sampleType }
                      else return .inl { s with off := fin }

/-- `ParseExr`, after the loop. -/
def exrInfo (s : ExrState) : Option ImageHeaderInfo :=
  match s.window with
  | none => none
  | some (width, height) =>
      if width ≤ 0 ∨ height ≤ 0 then none
      else some {
        format := .exr
        width
        height
        pixelFormat := if s.sampleType = "" then "unknown" else s.sampleType
        mimeType := "image/x-exr" }

/-- `ParseExr`. -/
def parseExr (data : List UInt8) (size : Nat) : Checked (Option ImageHeaderInfo) := do
  if size < 8 then return none
  else
    let s ← iterate (exrAttribute data size) (size + 1) {}
    return s.bind exrInfo

/-! ## The two functions -/

/-- `DetectImageFormat`. -/
def detectImageFormat (data : List UInt8) (size : Nat) : Checked ImageFormat := do
  if size = 0 then return .unknown
  else if ← isJpeg data size then return .jpeg
  else if ← isPng data size then return .png
  else if ← isExr data size then return .exr
  else if ← isTiff data size then classifyTiffContainer data size
  else return .unknown

/-- `ParseImageHeader`. -/
def parseImageHeader (data : List UInt8) (size : Nat) : Checked (Option ImageHeaderInfo) := do
  if size = 0 then return none
  else
    let size := min size kMaxHeaderSize
    match ← detectImageFormat data size with
    | .jpeg => parseJpeg data size
    | .png => parsePng data size
    | .tiff | .raw => parseTiff data size
    | .exr => parseExr data size
    | .unknown => return none

/-- The bytes of a file, whose number is a `size_t`. -/
structure Buffer where
  data : List UInt8
  fits : data.length < 2 ^ 64

/-- `DetectImageFormat`, of a whole file. -/
def Buffer.detectImageFormat (buffer : Buffer) : Checked ImageFormat :=
  Importers.detectImageFormat buffer.data buffer.data.length

/-- `ParseImageHeader`, of a whole file. -/
def Buffer.parseImageHeader (buffer : Buffer) : Checked (Option ImageHeaderInfo) :=
  Importers.parseImageHeader buffer.data buffer.data.length

end SpatialPlatform.Importers
