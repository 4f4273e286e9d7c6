import ListingQuery.Http.MediaType
import ListingQuery.Http.Target
import ListingQuery.Json.Parser
import ListingQuery.Listing.Registry

/-!
# The listing service over HTTP

    POST /{collection}/query      a page of rows and the counts
    POST /{collection}/count      the counts alone
    GET  /collections             the names of the collections
    GET  /health, /healthz        a sign of life

Further fixed pages may be added.  A request is checked in this order: route, method, collection
name as text, media type, body, collection, description.  Failures of a store are no errors here: they
travel in the envelope.
-/

namespace ListingQuery.Http

/-- A request. -/
structure Request where
  method : String
  target : String
  contentType? : Option String
  body : String

/-- An answer, with its body if that is JSON. -/
structure Response where
  status : Nat
  body? : Option Json
  /-- Whether scripts of any origin may read the answer. -/
  allowsOrigin : Bool := false

/-- What a server answers from. -/
structure Server (m : Type → Type) where
  registry : Registry m
  /-- Fixed pages beside those of the service. -/
  pages : Keyed Json := []
  /-- Whether scripts of any origin may ask. -/
  isOpen : Bool := false

/-- The questions about a collection. -/
inductive Question where
  | query
  | count
  deriving DecidableEq, Repr

/-- What a path leads to. -/
inductive Route where
  | page (content : Json)
  | collection (segment : String) (question : Question)

/-! ## Errors -/

/-- What a program needs to know about an error beside its code. -/
def errorDetails? : ListingError → Option Json
  | .query (.fieldNotFound path segment record) =>
    some (.object [("path", .string path), ("segment", .string segment),
      ("record", .string record)])
  | .query (.misalignedOffset offset limit) =>
    some (.object [("offset", Json.ofNat offset), ("limit", Json.ofNat limit)])
  | _ => none

/-- The body of an error. -/
def errorBody (wording : Wording) (e : ListingError) : Json :=
  .object ([("code", .string e.code), ("message", .string (e.message wording))]
    ++ Json.member "details" id (errorDetails? e))

/-- An error as an answer. -/
def Response.ofError (wording : Wording) (e : ListingError) : Response :=
  ⟨e.status, some (errorBody wording e), false⟩

/-- An answer without body. -/
def Response.bare (status : Nat) : Response := ⟨status, none, false⟩

/-! ## Routes -/

/-- The answer to a question after signs of life. -/
def healthPage : Json := .object [("status", .string "ok"), ("service", .string "sieve")]

namespace Server

variable {m : Type → Type}

/-- The fixed pages. -/
def allPages (s : Server m) : Keyed Json :=
  [("/health", healthPage), ("/healthz", healthPage),
    ("/collections", .object [("collections", .array (s.registry.names.map .string))])] ++ s.pages

/-- What a path leads to. -/
def route? (s : Server m) (path : String) : Option Route :=
  match Keyed.get? s.allPages path with
  | some content => some (.page content)
  | none =>
    match segmentsOf path with
    | [collection, question] =>
      if collection.isEmpty then none
      else if question = "query" then some (.collection collection .query)
      else if question = "count" then some (.collection collection .count)
      else none
    | _ => none

end Server

/-! ## Algorithm -/

/-- Whether the request says that its body is JSON. -/
def Request.isJson (r : Request) : Bool :=
  match r.contentType?.bind MediaType.ofText? with
  | some t => t.isJson
  | none => false

/-- The description in the body of a request, or the status of a refusal. -/
def Request.description (r : Request) : Except Nat QueryDescription :=
  if !r.isJson then .error 415
  else
    match Json.readText QueryDescription.ofWire r.body with
    | .ok d => .ok d
    | .error .malformed => .error 400
    | .error .misfit => .error 422

namespace Server

variable {m : Type → Type} [Monad m]

/-- The answer to a description about a collection. -/
def answer (s : Server m) (wording : Wording) (collection : String) (question : Question)
    (d : QueryDescription) : m Response := do
  match s.registry.get collection with
  | .error e => pure (Response.ofError wording (.query e))
  | .ok endpoint =>
    match endpoint.assemble d with
    | .error e => pure (Response.ofError wording (.query e))
    | .ok q =>
      match question with
      | .query => do
        let r ← endpoint.execute q
        pure ⟨200, some r.toJson, false⟩
      | .count => do
        let r ← endpoint.count wording d
        pure ⟨200, some r.toJson, false⟩

/-- The answer to a request whose route is known. -/
def respondAt (s : Server m) (wording : Wording) (r : Request) : Route → m Response
  | .page content =>
    pure (
      if r.method = "GET" then ⟨200, some content, false⟩
      else if r.method = "HEAD" then .bare 200
      else .bare 405)
  | .collection segment question =>
    if r.method ≠ "POST" then pure (.bare 405)
    else
      match decodeSegment? segment with
      | none => pure (.bare 400)
      | some collection =>
        match r.description with
        | .error status => pure (.bare status)
        | .ok d => s.answer wording collection question d

/-- The answer to a request.  An open server answers every question about options itself. -/
def respond (s : Server m) (wording : Wording) (r : Request) : m Response := do
  if s.isOpen ∧ r.method = "OPTIONS" then pure ⟨200, none, true⟩
  else
    let response ← match s.route? (pathOf r.target) with
      | none => pure (Response.bare 404)
      | some route => s.respondAt wording r route
    pure { response with allowsOrigin := s.isOpen }

end Server

end ListingQuery.Http
