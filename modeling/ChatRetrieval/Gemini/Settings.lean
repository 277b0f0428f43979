import ChatRetrieval.Json.Decode

/-!
Settings of the Gemini model that a call may override, and those of an input video.
-/

namespace ChatRetrieval.Gemini

open Json (field field?)

inductive Modality where
  | text
  | image
  | audio
  deriving DecidableEq

namespace Modality

def name : Modality → String
  | text => "TEXT"
  | image => "IMAGE"
  | audio => "AUDIO"

def toJson (m : Modality) : Json := .str m.name

def decode : Decoder Modality := Decode.oneOf ([text, image, audio].map fun m => (m.name, m))

end Modality

structure ThinkingConfig where
  includeThoughts : Option Bool
  /-- Tokens for thinking; zero turns it off and -1 lets the model decide. -/
  budget : Option Int
  deriving DecidableEq

namespace ThinkingConfig

def toJson (t : ThinkingConfig) : Json := .ofFields [
  field? "includeThoughts" .bool t.includeThoughts, field? "thinkingBudget" .int t.budget]

def decode : Decoder ThinkingConfig := fun j => do
  let r ← Decode.record ["includeThoughts", "thinkingBudget"] j
  return ⟨← r.maybe "includeThoughts" Decode.bool, ← r.maybe "thinkingBudget" Decode.int32⟩

end ThinkingConfig

/-- The threshold that blocks one category of harm. -/
structure SafetySetting where
  category : String
  threshold : String
  deriving DecidableEq

namespace SafetySetting

def toJson (s : SafetySetting) : Json :=
  .ofFields [field "category" (.str s.category), field "threshold" (.str s.threshold)]

def decode : Decoder SafetySetting := fun j => do
  let r ← Decode.record ["category", "threshold"] j
  return ⟨← r.required "category" Decode.string, ← r.required "threshold" Decode.string⟩

end SafetySetting

/-- The clip of an input video and how often it is sampled. -/
structure VideoMetadata where
  startOffset : Option String
  endOffset : Option String
  fps : Option Double
  deriving DecidableEq

namespace VideoMetadata

def toJson (v : VideoMetadata) : Json := .ofFields [
  field? "startOffset" .str v.startOffset, field? "endOffset" .str v.endOffset,
  field? "fps" .ofDouble v.fps]

def decode : Decoder VideoMetadata := fun j => do
  let r ← Decode.record ["startOffset", "endOffset", "fps"] j
  return ⟨← r.maybe "startOffset" Decode.string, ← r.maybe "endOffset" Decode.string,
    ← r.maybe "fps" Decode.double⟩

end VideoMetadata

/-- Options of one call. -/
structure Options where
  topK : Option Nat
  responseSchema : Option Json
  responseModalities : Option (List Modality)
  thinking : Option ThinkingConfig
  deriving DecidableEq

def Options.none : Options := ⟨.none, .none, .none, .none⟩

end ChatRetrieval.Gemini
