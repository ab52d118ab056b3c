import CardConnector.Proofs.RenderingFaults
import CardConnector.Proofs.ServicePolicies

/-! # The headers of responses

Texts of an add-on reach the headers of a response only through the writes of the renderer,
and every write is checked. So a response consists of legal headers alone, each a fixed one of
the binding or one that the result carries, letter by letter. If there is an illegal write, the
first one is answered with an error that names its header, and there is no response.
-/

namespace CardConnector

open Http (HeaderName HeaderValue Headers IsLegalName IsLegalValue Response)
open Text (bytes)

/-! ## Legal headers -/

namespace Http

/-- True of legal header names without capital letters. -/
def IsLowerName (s : String) : Prop :=
  IsLegalName s ∧ ∀ b ∈ bytes s, ¬ (65 ≤ b ∧ b ≤ 90)

theorem isTokenChar_of_isLowerTokenChar {c : Char} (hlower : isLowerTokenChar c = true) :
    isTokenChar c = true := by
  rw [isLowerTokenChar, Bool.and_eq_true] at hlower
  exact hlower.1

theorem not_capital_of_isLowerTokenChar {c : Char} (hlower : isLowerTokenChar c = true) :
    ∀ b ∈ String.utf8EncodeChar c, ¬ (65 ≤ b ∧ b ≤ 90) := by
  have hascii := ascii_of_isTokenChar (isTokenChar_of_isLowerTokenChar hlower)
  rw [utf8EncodeChar_ascii hascii, List.forall_mem_singleton]
  have hall : ∀ c : Char, c.toNat < 128 → isLowerTokenChar c = true →
      ¬ (65 ≤ UInt8.ofNat c.toNat ∧ UInt8.ofNat c.toNat ≤ 90) := forall_ascii (by decide +kernel)
  exact hall c hascii hlower

theorem HeaderName.isLowerName_text (name : HeaderName) : IsLowerName name.text := by
  have hlegal := name.legal
  simp only [isName, Bool.and_eq_true, decide_eq_true_eq, Bool.not_eq_true',
    List.isEmpty_eq_false_iff] at hlegal
  obtain ⟨⟨hnonempty, hlength⟩, hlower⟩ := hlegal
  have htoken : name.text.toList.all isTokenChar = true :=
    List.all_eq_true.mpr fun c hc =>
      isTokenChar_of_isLowerTokenChar (List.all_eq_true.mp hlower c hc)
  have hbytes : (bytes name.text).length = name.text.toList.length := by
    rw [Text.bytes_eq_flatMap, length_utf8_of_token htoken]
  refine ⟨⟨?_, ?_, (all_iff_bytes isTokenChar_iff _).mp htoken⟩, ?_⟩
  · rw [hbytes]
    exact List.length_pos_iff.mpr hnonempty
  · rw [hbytes]
    exact hlength
  · intro b hb
    rw [Text.bytes_eq_flatMap, List.mem_flatMap] at hb
    obtain ⟨c, hc, hb⟩ := hb
    exact not_capital_of_isLowerTokenChar (List.all_eq_true.mp hlower c hc) b hb

theorem HeaderValue.isLegalValue_text (value : HeaderValue) : IsLegalValue value.text :=
  (isValue_iff _).mp value.legal

theorem mem_values_of_mem {headers : Headers} {header : HeaderName × HeaderValue}
    (hmem : header ∈ headers.entries) : header.2.text ∈ headers.values header.1.text :=
  List.mem_filterMap.mpr ⟨header, hmem, if_pos rfl⟩

end Http

namespace Binding

/-! ## The writes of a renderer -/

/-- A text that is to stand in a header: a name, or a value with the header that is blamed
for it. -/
inductive HeaderWrite where
  | name (spelled : String)
  | value (header text : String)

namespace HeaderWrite

def IsLegal : HeaderWrite → Prop
  | name spelled => IsLegalName spelled
  | value _ text => IsLegalValue text

/-- The error that a write ends in, unless it is legal. -/
def fault? : HeaderWrite → Option ContractError
  | name spelled =>
      if IsLegalName spelled then none else some (.illegalHeader spelled Http.nameFault)
  | value header text =>
      if IsLegalValue text then none else some (.illegalHeader header Http.valueFault)

theorem fault?_eq_none_iff {write : HeaderWrite} : write.fault? = none ↔ write.IsLegal := by
  cases write <;> simp [fault?, IsLegal]

end HeaderWrite

/-- True of a result whose code asks for a redirect to nowhere. -/
def Result.lacksTarget (result : Result) : Bool :=
  result.code = .redirect && result.auxiliary.redirectLocation.isNone

/-- The headers that are the same whatever a result carries. -/
def fixedHeaders (settings : BindingSettings) : List (String × String) :=
  ("content-type", plainText) :: settings.policies

namespace Renderer

/-- The texts that rendering writes into headers, in its order. -/
def writes (renderer : Renderer) (result : Result) : List HeaderWrite :=
  (result.ownHeader.toList.map fun header => .value header.1 header.2)
    ++ (result.auxiliary.headers.pairs.flatMap fun pair =>
      [.name pair.1, .value pair.1 pair.2])
    ++ result.auxiliary.minorResult.toList.map fun minor => .value renderer.minorHeader.text minor

/-- The headers whose values are texts that a result carries, with their names in lower
case. -/
def carriedHeaders (renderer : Renderer) (result : Result) : List (String × String) :=
  (result.auxiliary.redirectLocation.toList.map fun location => ("location", location))
    ++ (result.body.toList.map fun body => ("content-type", body.mimeType))
    ++ (result.auxiliary.headers.pairs.map fun pair => (pair.1.toLower, pair.2))
    ++ result.auxiliary.minorResult.toList.map fun minor => (renderer.minorHeader.text, minor)

theorem head?_valueFaults (header text : String) :
    (valueFaults header text).head? = (HeaderWrite.value header text).fault? := by
  rw [valueFaults, HeaderWrite.fault?]
  split <;> rfl

theorem fault?_plainText (header : String) :
    (HeaderWrite.value header plainText).fault? = none :=
  HeaderWrite.fault?_eq_none_iff.mpr ((Http.isValue_iff plainText).mp (by decide +kernel))

/-- The frame fails for want of a target or by the write of the binding's own header. -/
theorem head?_frameFaults (result : Result) :
    (frameFaults result).head? =
      if result.lacksTarget then some .missingRedirectLocation
      else result.ownHeader.bind fun header => (HeaderWrite.value header.1 header.2).fault? := by
  rw [frameFaults, Result.lacksTarget, Result.ownHeader]
  cases result.auxiliary.redirectLocation with
  | some location => simpa using head?_valueFaults "location" location
  | none =>
      by_cases hcode : result.code = .redirect
      · simp [hcode]
      · cases result.body with
        | some body => simpa [hcode] using head?_valueFaults "content-type" body.mimeType
        | none => cases result.message <;> simp [hcode, fault?_plainText]

theorem findSome?_pairFault (pairs : List (String × String)) :
    pairs.findSome? pairFault =
      (pairs.flatMap fun pair =>
        [HeaderWrite.name pair.1, HeaderWrite.value pair.1 pair.2]).findSome?
          HeaderWrite.fault? := by
  induction pairs with
  | nil => rfl
  | cons pair rest ih =>
      rw [List.flatMap_cons, List.findSome?_append, ← ih, List.findSome?_cons]
      have hpair : pairFault pair =
          [HeaderWrite.name pair.1, HeaderWrite.value pair.1 pair.2].findSome?
            HeaderWrite.fault? := by
        by_cases hname : IsLegalName pair.1
        · by_cases hvalue : IsLegalValue pair.2 <;>
            simp [pairFault, valueFaults, HeaderWrite.fault?, hname, hvalue]
        · simp [pairFault, HeaderWrite.fault?, hname]
      rw [hpair]
      cases [HeaderWrite.name pair.1, HeaderWrite.value pair.1 pair.2].findSome?
        HeaderWrite.fault? <;> rfl

/-- Rendering fails with the error of the first illegal write, and before all writes if the
target of a redirect is missing. -/
theorem render_eq_error_iff {renderer : Renderer} {result : Result} {error : ContractError} :
    renderer.render result = .error error ↔
      (if result.lacksTarget then some .missingRedirectLocation
        else (renderer.writes result).findSome? HeaderWrite.fault?) = some error := by
  have hminor : ((result.auxiliary.minorResult.map
      (valueFaults renderer.minorHeader.text)).getD []).head? =
        (result.auxiliary.minorResult.toList.map fun minor =>
          HeaderWrite.value renderer.minorHeader.text minor).findSome? HeaderWrite.fault? := by
    cases result.auxiliary.minorResult with
    | none => rfl
    | some minor => simpa using head?_valueFaults renderer.minorHeader.text minor
  have hown : (result.ownHeader.bind fun header => (HeaderWrite.value header.1 header.2).fault?) =
      (result.ownHeader.toList.map fun header =>
        HeaderWrite.value header.1 header.2).findSome? HeaderWrite.fault? := by
    cases result.ownHeader <;> simp
  rw [← faultOf_eq_some_iff, faultOf_render, faults, List.head?_append, List.head?_append,
    List.head?_filterMap, hminor, findSome?_pairFault, head?_frameFaults]
  cases result.lacksTarget with
  | true => simp
  | false => simp only [Bool.false_eq_true, if_false, writes, List.findSome?_append, hown]

/-! ## The headers of a rendered response -/

theorem mem_valuesUnder_iff {name value : String} {pairs : List (String × String)} :
    value ∈ valuesUnder name pairs ↔ (name, value) ∈ pairs := by
  simp [valuesUnder]

/-- A header that the binding adds on its own is fixed or carries a text of the result. -/
theorem mem_of_ownHeader {settings : BindingSettings} {renderer : Renderer} {result : Result}
    {header : String × String} (hown : result.ownHeader = some header) :
    header ∈ fixedHeaders settings ++ renderer.carriedHeaders result := by
  unfold Result.ownHeader at hown
  unfold fixedHeaders carriedHeaders
  cases hlocation : result.auxiliary.redirectLocation with
  | some location =>
      rw [hlocation] at hown
      cases hown
      simp
  | none =>
      rw [hlocation] at hown
      cases hbody : result.body with
      | some body =>
          rw [hbody] at hown
          cases hown
          simp
      | none =>
          rw [hbody] at hown
          cases hmessage : result.message with
          | none => simp [hmessage] at hown
          | some message =>
              rw [hmessage] at hown
              cases hown
              simp

/-- The values of a rendered response are fixed or carried by the result. -/
theorem mem_of_render {settings : BindingSettings} {renderer : Renderer} {result : Result}
    {response : Response} (hrender : renderer.render result = .ok response) {name value : String}
    (hvalue : value ∈ response.headers.values name) :
    (name, value) ∈ fixedHeaders settings ++ renderer.carriedHeaders result := by
  obtain ⟨-, -, hvalues⟩ := render_eq_ok hrender
  rw [hvalues] at hvalue
  split at hvalue
  next hminor =>
    obtain rfl := hminor.2
    have hresult := Option.mem_toList.mp hvalue
    simp [carriedHeaders, hresult]
  next =>
    rcases List.mem_append.mp hvalue with hown | hextra
    · exact mem_of_ownHeader (Option.mem_toList.mp (mem_valuesUnder_iff.mp hown))
    · have hpair := mem_valuesUnder_iff.mp hextra
      unfold carriedHeaders
      simp only [List.mem_append]
      exact .inr (.inl (.inr hpair))

end Renderer

namespace Service

theorem call_value (service : Service) (request : Request) :
    (service.call request).value =
      Layer.wrapAll service.layers
        (service.renderer.render (service.action.execute request)) := by
  rw [call, renderResult]
  cases service.renderer.render (service.action.execute request) <;> rfl

theorem wrapAll_eq_error_iff {layers : List Layer} {answer : Except ContractError Response}
    {error : ContractError} :
    Layer.wrapAll layers answer = .error error ↔ answer = .error error := by
  cases answer with
  | error fault => rw [Layer.wrapAll_error]
  | ok response => simp [Layer.wrapAll_ok]

theorem mem_of_wrapAll {settings : BindingSettings} {answer : Except ContractError Response}
    {response : Response} (hanswer : Layer.wrapAll (layersOf settings) answer = .ok response)
    {name value : String} (hvalue : value ∈ response.headers.values name) :
    (name, value) ∈ settings.policies ∨
      ∃ bare, answer = .ok bare ∧ value ∈ bare.headers.values name := by
  have hrefines := refinesBy_wrapAll settings answer
  rw [hanswer] at hrefines
  cases answer with
  | error fault => cases hrefines
  | ok bare =>
      obtain ⟨layered, heq, hextends⟩ := hrefines
      cases heq
      rw [hextends.values, List.mem_append] at hvalue
      rcases hvalue with hbare | hpolicy
      · exact .inr ⟨bare, rfl, hbare⟩
      · exact .inl (Renderer.mem_valuesUnder_iff.mp hpolicy)

theorem ofSettings_eq_ok {action : Action} {settings : BindingSettings} {service : Service}
    (hservice : ofSettings action settings = .ok service) :
    ∃ renderer, service = ⟨action, renderer, layersOf settings⟩ := by
  rw [ofSettings] at hservice
  split at hservice
  next renderer _ => exact ⟨renderer, (Except.ok.inj hservice).symm⟩
  next => cases hservice

/-- Every header of a response is legal, free of control characters, and either fixed or a text
of the result letter by letter. There is a response only if every write is legal; otherwise the
answer is the error of the first illegal one, or that a target is missing. -/
theorem call_headers_legal {action : Action} {settings : BindingSettings} {service : Service}
    (hservice : ofSettings action settings = .ok service) (request : Request) :
    let result := action.execute request
    let writes := service.renderer.writes result
    (∀ response, (service.call request).value = .ok response →
      (∀ write ∈ writes, write.IsLegal) ∧
      ∀ header ∈ response.headers.entries,
        Http.IsLowerName header.1.text ∧ IsLegalValue header.2.text ∧
        (∀ b ∈ [0, 10, 13], b ∉ bytes header.1.text ∧ b ∉ bytes header.2.text) ∧
        (header.1.text, header.2.text) ∈
          fixedHeaders settings ++ service.renderer.carriedHeaders result) ∧
    ∀ error, (service.call request).value = .error error ↔
      (if result.lacksTarget then some .missingRedirectLocation
        else writes.findSome? HeaderWrite.fault?) = some error := by
  obtain ⟨renderer, rfl⟩ := ofSettings_eq_ok hservice
  intro result writes
  have herror (error : ContractError) :
      (call ⟨action, renderer, layersOf settings⟩ request).value = .error error ↔
        (if result.lacksTarget then some .missingRedirectLocation
          else writes.findSome? HeaderWrite.fault?) = some error := by
    rw [call_value, wrapAll_eq_error_iff]
    exact Renderer.render_eq_error_iff
  refine ⟨fun response hresponse => ⟨fun write hwrite => ?_, fun header hheader => ?_⟩, herror⟩
  · have hnone := (exists_ok_iff herror).mp ⟨response, hresponse⟩
    split at hnone
    next => cases hnone
    next =>
      exact HeaderWrite.fault?_eq_none_iff.mp (List.findSome?_eq_none_iff.mp hnone write hwrite)
  · have hname := header.1.isLowerName_text
    have hvalue := header.2.isLegalValue_text
    have hcontrol : ∀ b ∈ ([0, 10, 13] : List UInt8),
        ¬ Http.IsTokenByte b ∧ ¬ Http.IsValueByte b := by decide +kernel
    refine ⟨hname, hvalue, fun b hb => ⟨?_, ?_⟩, ?_⟩
    · exact fun hmem => (hcontrol b hb).1 (hname.1.2.2 b hmem)
    · exact fun hmem => (hcontrol b hb).2 (hvalue b hmem)
    · rw [call_value] at hresponse
      rcases mem_of_wrapAll hresponse (Http.mem_values_of_mem hheader) with
        hpolicy | ⟨bare, hrender, hbare⟩
      · exact List.mem_append_left _ (List.mem_cons_of_mem _ hpolicy)
      · exact Renderer.mem_of_render hrender hbare

/-- A line break in a header that an add-on asks for ends in an error, though the name before
it and the minor result after it are legal. -/
theorem call_headers_legal_lineBreak :
    let settings : BindingSettings := ⟨true, false, "X-Minor"⟩
    let action := Action.always (.ok { Result.ok with
      auxiliary := AuxiliaryData.empty.run
        [.header "X-Name" "a\r\nSet-Cookie: b", .minorResult "m"] })
    ∃ service, ofSettings action settings = .ok service ∧
      (service.call (.forResource "/")).value =
        .error (.illegalHeader "X-Name" Http.valueFault) := by
  intro settings action
  obtain ⟨renderer, hrenderer⟩ :
      ∃ renderer, Renderer.ofSettings ⟨true, false, "X-Minor"⟩ = .ok renderer := ⟨_, rfl⟩
  have hservice : ofSettings action settings = .ok ⟨action, renderer, layersOf settings⟩ := by
    simp only [ofSettings, settings, hrenderer]
  obtain ⟨-, herror⟩ := call_headers_legal hservice (.forResource "/")
  have hname : IsLegalName "X-Name" := by decide +kernel
  have hvalue : ¬ IsLegalValue "a\r\nSet-Cookie: b" := by decide +kernel
  have hwrites : renderer.writes (action.execute (.forResource "/")) =
      [.name "X-Name", .value "X-Name" "a\r\nSet-Cookie: b", .value "x-minor" "m"] := by
    cases hrenderer
    rfl
  have htarget : (action.execute (.forResource "/")).lacksTarget = false := rfl
  refine ⟨_, hservice, (herror _).mpr ?_⟩
  rw [htarget, hwrites]
  simp [HeaderWrite.fault?, hname, hvalue]

end Service

end Binding

end CardConnector
