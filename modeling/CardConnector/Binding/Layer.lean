import CardConnector.Http.Response

/-! # Response layers

A layer adds fixed headers to every response of what it is put around; errors pass
through it unchanged.
-/

namespace CardConnector.Binding

open Http (HeaderName HeaderValue Response)

/-- The headers that a layer adds, in order. -/
structure Layer where
  headers : List (HeaderName × HeaderValue)
deriving DecidableEq

/-- The policy sent with every response of the binding. -/
def contentPolicy : String :=
  "default-src 'none'; script-src 'none'; style-src 'self'; img-src 'self'"

namespace Layer

/-- Headers against injected scripts, guessed types and frames. -/
def security : Layer :=
  ⟨[(.scriptProtection, ⟨"1", by decide⟩),
    (.contentSecurityPolicy, ⟨contentPolicy, by decide +kernel⟩),
    (.contentTypeOptions, ⟨"nosniff", by decide⟩),
    (.frameOptions, ⟨"SAMEORIGIN", by decide⟩)]⟩

def cacheControl : Layer := ⟨[(.cacheControl, ⟨"no-store", by decide⟩)]⟩

/-- The response with the headers of the layer added. -/
def apply (layer : Layer) (response : Response) : Response :=
  { response with headers := response.headers.appendAll layer.headers }

/-- The values of a name in the headers of a layer. -/
def values (layer : Layer) (name : String) : List String :=
  (Http.Headers.mk layer.headers).values name

@[simp] theorem values_apply (layer : Layer) (response : Response) (w : String) :
    (layer.apply response).headers.values w = response.headers.values w ++ layer.values w :=
  Http.Headers.values_appendAll _ _ _

/-- The answer of what a layer is put around, with the headers of the layer added to a
response. -/
def wrap {ε : Type} (layer : Layer) (answer : Except ε Response) : Except ε Response :=
  match answer with
  | .ok response => .ok (layer.apply response)
  | .error fault => .error fault

/-- The answer inside a stack of layers, of which the first is the innermost. -/
def wrapAll {ε : Type} (layers : List Layer) (answer : Except ε Response) : Except ε Response :=
  layers.foldl (fun answer layer => layer.wrap answer) answer

/-- The layer with the headers of a stack, innermost first. -/
def concat (layers : List Layer) : Layer := ⟨layers.flatMap Layer.headers⟩

end Layer

end CardConnector.Binding
