import Multihead.Text.Blank

/-! # Extensions
A device lists its extensions in one text, with blanks between them. What is required must be one of the words of
the text; all that is missing is reported at once. -/

set_option autoImplicit false

namespace Multihead.Scanout

/-- The required extensions of an interface that are not listed. -/
structure MissingExtensions where
  api : String
  missing : List String
  deriving DecidableEq

namespace MissingExtensions

def message (m : MissingExtensions) : String :=
  "missing required " ++ m.api ++ " extensions: " ++ String.intercalate ", " m.missing

end MissingExtensions

/-- The required extensions that are not words of `listed`, in the order in which they are required. -/
def unlisted (required : List String) (listed : String) : List String :=
  let words := Text.words listed.toList
  required.filter fun e => !words.contains e.toList

def requireExtensions (api : String) (required : List String) (listed : String) : Except MissingExtensions Unit :=
  match unlisted required listed with
  | [] => .ok ()
  | missing => .error ⟨api, missing⟩

/-- What a copier between devices needs. -/
def requiredEGL : List String := ["EGL_KHR_image_base", "EGL_EXT_image_dma_buf_import"]

def requiredGL : List String := ["GL_OES_EGL_image"]

end Multihead.Scanout
