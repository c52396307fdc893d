import DocIndex.Error
import DocIndex.Files.System
import DocIndex.Model.Pooling

/-!
# Embedding models

A model is known by its name. It is either kept in a folder of its own, with the files that make it
up, or provided by the library that runs models. Loading a kept model reads its files in a fixed
order, the pooling document first, and fails at the first one that cannot be read.
-/

namespace DocIndex.Model

open DocIndex.Files

/-- A model that is provided. -/
inductive BundledModel
  | allMiniLm
  | bgeSmall
  deriving DecidableEq, Repr

/-- The name under which a model is provided. -/
def BundledModel.name : BundledModel → String
  | allMiniLm => "AllMiniLML6V2"
  | bgeSmall => "BGESmallENV15"

/-- Where a model comes from. -/
inductive Origin
  /-- The folder of this name, below the folder of all models. -/
  | kept (folder : String)
  | bundled (model : BundledModel)
  deriving DecidableEq, Repr

/-- Where the model with the given name comes from, if the name is known. -/
def Origin.ofName? (name : String) : Option Origin :=
  if name == "qwen-small" then some (.kept "qwen-small")
  else if name == "all-minilm-l6-v2" then some (.bundled .allMiniLm)
  else if name == "bge-small-en-v1.5" then some (.bundled .bgeSmall)
  else none

/-- The files of a kept model. -/
structure KeptModel where
  pooling : Pooling
  network : List UInt8
  tokenizer : List UInt8
  config : List UInt8
  specialTokens : List UInt8
  tokenizerConfig : List UInt8

/-- The contents of the file to which names lead from a folder. -/
def readPart (files : FileSystem) (folder : Path) (names : List String) :
    Except String (List UInt8) :=
  let path := names.foldl (fun path name => path.join (.ofString name)) folder
  (files.readBytes path).mapError Fault.message

/-- Reads the files of the model that is kept in a folder. -/
def KeptModel.read (files : FileSystem) (folder : Path) : Except String KeptModel := do
  let document ← readPart files folder ["1_Pooling", "config.json"]
  let pooling ← (Pooling.read document).mapError PoolingFault.message
  let network ← readPart files folder ["onnx", "model.onnx"]
  let tokenizer ← readPart files folder ["tokenizer.json"]
  let config ← readPart files folder ["config.json"]
  let specialTokens ← readPart files folder ["special_tokens_map.json"]
  let tokenizerConfig ← readPart files folder ["tokenizer_config.json"]
  return { pooling, network, tokenizer, config, specialTokens, tokenizerConfig }

/-- The model with the given name, where models are kept in the given folder. -/
def loadModel (files : FileSystem) (modelDir : Path) (name : String) : Except Error KeptModel :=
  match Origin.ofName? name with
  | none => .error (.unknownModel name)
  | some (.bundled model) =>
    .error (.modelLoad name ("the model " ++ model.name ++ " has to be downloaded"))
  | some (.kept folder) =>
    (KeptModel.read files (modelDir.join (.ofString folder))).mapError (.modelLoad name)

end DocIndex.Model
