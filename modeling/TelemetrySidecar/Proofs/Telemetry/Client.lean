import TelemetrySidecar.Proofs.Extension.Agenda
import TelemetrySidecar.Proofs.Http.Exchange
import TelemetrySidecar.Proofs.Http.Redirection
import TelemetrySidecar.Proofs.Telemetry.Subscription

/-
  What comes of a subscription

  A subscription is checked, sent once, and judged by the final response: by its status
  first if that says that there is no telemetry, then by its body, then by its status.

  What is proved: which response gives which result (`Told`, `told_answerOf`), and that
  over every host a subscription is sent exactly if its thresholds are within their
  bounds and comes to the result that its final response tells (`subscribe_told`).
-/

namespace TelemetrySidecar.SubscriptionClient

open Http (Chain maxRedirections)

/-- What a subscription that was sent comes to, by its final response. -/
structure Told (endpoint : String) (last : Option Response)
    (result : Except SubscriptionError String) : Prop where
  ok : ∀ body, result = .ok body ↔
    ∃ response, last = some response ∧ response.status = 200 ∧ response.text = .ok body
  /-- Whether the body can be read or not. -/
  notSupported : result = .error (.notSupported endpoint) ↔
    ∃ response, last = some response ∧ response.status = 202
  badStatus : ∀ status body, result = .error (.badStatus endpoint status body) ↔
    ∃ response, last = some response ∧ response.status = status ∧ response.text = .ok body ∧
      status ≠ 200 ∧ status ≠ 202
  bodyCut : ∀ status fault, result = .error (.bodyCut endpoint status fault) ↔
    ∃ response, last = some response ∧ response.status = status ∧
      response.text = .error fault ∧ status ≠ 202
  unanswered : (∃ fault, result = .error (.unanswered endpoint fault)) ↔ last = none
  /-- There is nothing else that it may come to. -/
  checked : ∀ buffering threshold, result ≠ .error (.badBuffering buffering threshold)

section

variable {endpoint : String} {response : Response}

/-- A response tells what the client says of it. -/
theorem told_answerOf : Told endpoint (some response) (answerOf endpoint response) := by
  unfold answerOf
  by_cases unsupported : response.status = 202
  · rw [if_pos unsupported]
    constructor
    case badStatus | bodyCut => grind
    case ok | notSupported | unanswered | checked => simp [unsupported]
  · rw [if_neg unsupported]
    cases text : response.text with
    | error fault =>
      constructor
      case bodyCut => grind
      case ok | notSupported | badStatus | unanswered | checked => simp [unsupported, text]
    | ok body =>
      by_cases success : response.status = 200
      · simp only [if_pos success]
        constructor
        case badStatus => grind
        case ok | notSupported | bodyCut | unanswered | checked => simp [success, text]
      · simp only [if_neg success]
        constructor
        case badStatus => grind
        case ok | notSupported | bodyCut | unanswered | checked =>
          simp [unsupported, success, text]

theorem told_unanswered {fault : HttpFault} :
    Told endpoint none (.error (.unanswered endpoint fault)) := by
  constructor
  case ok | notSupported | badStatus | bodyCut | unanswered | checked => simp

theorem outOfBounds?_eq_none_iff {b : Buffering} :
    b.outOfBounds? = none ↔ ∀ t, b.fits t = true := by
  have all : ∀ t, t ∈ Buffering.Threshold.all := by
    intro t
    cases t with
    | maxItems | maxBytes | timeoutMs => decide
  simp [Buffering.outOfBounds?, all]

theorem not_fits_of_outOfBounds? {b : Buffering} {t : Buffering.Threshold}
    (h : b.outOfBounds? = some t) : b.fits t = false := by
  simpa using List.find?_some h

/-- What is sent describes just what is subscribed to. -/
theorem ofText_subscription (client : SubscriptionClient) (uri : String) :
    Subscription.ofText (client.subscription uri).value.toText =
      .ok { types := client.types, buffering := client.buffering, uri } := by
  rw [Subscription.ofText, Json.Value.ofText_toText, Json.Document.read_eq_ok_iff]
  exact ⟨Subscription.read_asTree _ (client.subscription uri), rfl⟩

variable {identifier : String} {url : Url}

/-- A subscription whose thresholds are within their bounds is sent. -/
theorem subscribe_of_fits (host : Host) (client : SubscriptionClient) (uri : String) (log : Log)
    (visible : Http.isHeaderValue (Text.encode identifier) = true)
    (reads : Url.read? client.endpoint = some url)
    (within : client.buffering.outOfBounds? = none) :
    ∃ result more, (client.subscribe host identifier uri).run.run log =
        (some result, log ++ more) ∧
      Chain host maxRedirections log
        ⟨"PUT", url, [(identifierField, Text.encode identifier), jsonContent],
          Text.encode (client.subscription uri).value.toText⟩ more ∧
      Told client.endpoint more.final? result := by
  have fit : ([(identifierField, Text.encode identifier), jsonContent] : Headers).all
      (fun h => Http.isHeaderValue h.2) = true := by
    simp [visible, Http.isHeaderValue_jsonContent]
  obtain ⟨outcome, more, sent, chained⟩ := Http.send_chain
    (Text.encode (client.subscription uri).value.toText) log reads fit
  cases outcome with
  | error fault =>
    refine ⟨.error (.unanswered client.endpoint fault), more, ?_, chained.chain, ?_⟩
    · unfold subscribe
      rw [within]
      exact (Talk.run_bind_of_some sent).trans rfl
    · rw [chained.final]
      exact told_unanswered
  | ok response =>
    refine ⟨answerOf client.endpoint response, more, subscribe_of_answered within sent,
      chained.chain, ?_⟩
    rw [chained.final]
    exact told_answerOf

/-- Over every host a subscription is refused and not sent exactly if one of its thresholds is out
of its bounds. Otherwise one request is made, with the identifier and a text that describes the
types, the thresholds and the address, and is only made again where a response redirects it.
The result is told by the response at the end of these exchanges, and that there is none shows
as such. -/
theorem subscribe_told (host : Host) (client : SubscriptionClient) (uri : String) (log : Log)
    (visible : Http.isHeaderValue (Text.encode identifier) = true)
    (reads : Url.read? client.endpoint = some url) :
    ∃ result more, (client.subscribe host identifier uri).run.run log =
        (some result, log ++ more) ∧
      (more = [] ↔ ∃ t, client.buffering.fits t = false) ∧
      ((∃ b t, result = .error (.badBuffering b t)) ↔ ∃ t, client.buffering.fits t = false) ∧
      (∀ b t, result = .error (.badBuffering b t) → b = client.buffering ∧ b.fits t = false) ∧
      ((∀ t, client.buffering.fits t = true) → ∃ text,
        Subscription.ofText text =
          .ok { types := client.types, buffering := client.buffering, uri } ∧
        Chain host maxRedirections log
          ⟨"PUT", url, [(identifierField, Text.encode identifier), jsonContent],
            Text.encode text⟩ more ∧
        more.length ≤ maxRedirections + 1 ∧ Told client.endpoint more.final? result) := by
  cases within : client.buffering.outOfBounds? with
  | none =>
    obtain ⟨result, more, run, chain, told⟩ :=
      subscribe_of_fits host client uri log visible reads within
    have fits := outOfBounds?_eq_none_iff.mp within
    refine ⟨result, more, run, ?_, ?_, ?_, fun _ => ?_⟩
    · simp [chain.ne_nil, fits]
    · simp [told.checked, fits]
    · exact fun b t refused => absurd refused (told.checked b t)
    · exact ⟨_, ofText_subscription client uri, chain, chain.length_le, told⟩
  | some t =>
    have unfit := not_fits_of_outOfBounds? within
    refine ⟨.error (.badBuffering client.buffering t), [], ?_, ?_, ?_, ?_, fun fits => ?_⟩
    · unfold subscribe
      rw [within, List.append_nil]
      rfl
    · exact ⟨fun _ => ⟨t, unfit⟩, fun _ => rfl⟩
    · exact ⟨fun _ => ⟨t, unfit⟩, fun _ => ⟨_, t, rfl⟩⟩
    · rintro _ _ ⟨⟩
      exact ⟨rfl, unfit⟩
    · cases unfit.symm.trans (fits t)

end

/-- A client that subscribes to events of the platform. -/
def platformClient : SubscriptionClient := { runtimeUrl := "http://h", types := [.platform] }

/-- A client that wants events sent earlier than they may be. -/
def hastyClient : SubscriptionClient :=
  { platformClient with buffering := { maxItems := 999 } }

/-- A host that knows nothing of telemetry is asked once and says so, and thresholds that are out of
their bounds are not sent. -/
theorem subscribe_told_unsupported :
    (∃ e, (platformClient.subscribe ExtensionRun.brief "one" "http://u").run.run [] =
      (some (.error (.notSupported platformClient.endpoint)), [e])) ∧
    ∃ t, (hastyClient.subscribe ExtensionRun.brief "one" "http://u").run.run [] =
      (some (.error (.badBuffering hastyClient.buffering t)), []) := by
  have visible := ExtensionRun.isHeaderValue_one
  have reads : Url.read? platformClient.endpoint = some ⟨false, "h", "/2022-07-01/telemetry"⟩ := by
    decide
  constructor
  · have within : ∀ t, platformClient.buffering.fits t = true := by
      intro t
      cases t with
      | maxItems | maxBytes | timeoutMs => decide
    obtain ⟨result, more, run, -, -, -, sent⟩ :=
      subscribe_told ExtensionRun.brief platformClient "http://u" [] visible reads
    obtain ⟨text, -, chain, -, told⟩ := sent within
    have unmoved (request : Request) :
        Http.redirection? request { status := 202 } = none :=
      Http.redirection?_of_not_mem (by decide)
    -- The one answer of the host redirects nowhere.
    cases chain with
    | once =>
      have unsupported := told.notSupported.mpr
        ⟨{ status := 202 }, by
          simp [Log.final?, Exchange.final?, ExtensionRun.brief, unmoved], rfl⟩
      rw [unsupported] at run
      exact ⟨_, run⟩
    | redirected answered redirects =>
      cases answered
      cases (unmoved _).symm.trans redirects
  · obtain ⟨result, more, run, silent, refused, named, -⟩ :=
      subscribe_told ExtensionRun.brief hastyClient "http://u" [] visible reads
    have unfit : hastyClient.buffering.fits .maxItems = false := by decide
    obtain ⟨b, t, rfl⟩ := refused.mpr ⟨_, unfit⟩
    obtain ⟨rfl, -⟩ := named b t rfl
    rw [silent.mpr ⟨_, unfit⟩] at run
    exact ⟨t, run⟩

end TelemetrySidecar.SubscriptionClient
