import Findings.Error

/-!
# Embedding models

The models that can be named, the dimension of their embeddings and the file that holds them.
Names may be in either case.
-/
namespace Findings

structure Model where
  name : String
  dimension : Nat
  file : String
  deriving DecidableEq, Repr

namespace Model

def all : List Model :=
  [⟨"all-MiniLM-L6-v2", 384, "model.onnx"⟩, ⟨"bge-small-en-v1.5", 384, "onnx/model.onnx"⟩,
    ⟨"bge-base-en-v1.5", 768, "onnx/model.onnx"⟩]

/-- The name of the model that is taken where none is named. -/
def defaultName : String := "all-MiniLM-L6-v2"

def find? (name : String) : Option Model := all.find? (·.name.toLower == name.toLower)

def dimension? (name : String) : Option Nat := (find? name).map (·.dimension)

/-- Why a named model cannot be loaded where the hub of models is out of reach. -/
def loadFault (name : String) : EmbeddingFault :=
  match find? name with
  | some model => .initialization ("Failed to retrieve " ++ model.file)
  | none =>
    .initialization
      ("Unsupported model: " ++ name ++ ". Supported: " ++
        String.intercalate ", " (all.map (·.name)))

end Model

end Findings
