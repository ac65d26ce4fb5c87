import ProxyClient.Foundations.Segments
import ProxyClient.Target.Endpoints

/-! The configuration of `config.rs`: what its file holds, the instance name that may have to be
asked of the EC2 metadata server, and the limits that are checked at the end.
-/

namespace ProxyClient

open Foundations

-----------------------------------------------------------------------------------------
-- Requests to the metadata server
-----------------------------------------------------------------------------------------

inductive HttpMethod
  | get
  | put
deriving DecidableEq, Repr

/-- A request of a `reqwest::Client`, with the headers that the code sets. -/
structure HttpRequest where
  method : HttpMethod
  url : String
  headers : List (String × String)
deriving DecidableEq, Repr

/-- A `reqwest::Response`; `text` is what `text().await` yields. -/
structure HttpResponse where
  status : UInt16
  text : Except BoxError String

/-- A program that sends requests. -/
abbrev Http (α : Type) : Type := Program HttpRequest (fun _ => Except BoxError HttpResponse) α

/-- `request.send().await`. -/
def send (request : HttpRequest) : Http (Except BoxError HttpResponse) := Program.call request

/-- `StatusCode::is_success`. -/
def isSuccess (status : UInt16) : Bool := decide (200 ≤ status ∧ status < 300)

-----------------------------------------------------------------------------------------
-- Configurations
-----------------------------------------------------------------------------------------

/-- A `HashMap<String, String>`, in the order of its iterators. -/
structure ResourceMap where
  entries : List (String × String)
  distinct : (entries.map Prod.fst).Nodup

/-- `HashMap::keys`. -/
def ResourceMap.keys (resources : ResourceMap) : List String := resources.entries.map Prod.fst

/-- A configuration. Its `instance` is `instanceName` here. -/
structure Config where
  instanceName : String
  target : String
  resources : ResourceMap
  cfAccessEnabled : Bool
  cfAccessKey : String
  cfAccessSecret : String
  ec2MetaDomain : String

/-- The members of a JSON object that is a configuration; those with a default may be missing. -/
structure ConfigMembers where
  instanceName : String
  target : String
  resources : ResourceMap
  cfAccessEnabled : Option Bool
  cfAccessKey : Option String
  cfAccessSecret : Option String
  ec2MetaDomain : Option String

/-- What `config.rs` uses of other crates: `serde_json::from_slice` up to the defaults, whether
`HeaderValue::from_str` succeeds, and how a `StatusCode` is displayed.
-/
structure ConfigCrates where
  fromSlice : List UInt8 → Except BoxError ConfigMembers
  isHeaderValue : String → Bool
  displayStatus : UInt16 → String

def defaultEc2MetadataDomain : String := "http://169.254.169.254"

/-- `char::is_whitespace`, the Unicode property `White_Space`. -/
def isWhitespace (char : Char) : Bool :=
  let code := char.toNat
  (0x09 ≤ code && code ≤ 0x0d) || code == 0x20 || code == 0x85 || code == 0xa0 || code == 0x1680
    || (0x2000 ≤ code && code ≤ 0x200a) || code == 0x2028 || code == 0x2029 || code == 0x202f
    || code == 0x205f || code == 0x3000

/-- `str::trim`. -/
def trim (text : String) : String := String.ofList (trimmed isWhitespace text.toList)

@[simp] theorem trim_trim (text : String) : trim (trim text) = trim text := by
  rw [trim, trim, String.toList_ofList, trimmed_trimmed]

/-- A `FieldLimitError` as an error of any kind. -/
def limited (checked : Except FieldLimitError Unit) : Except BoxError Unit :=
  checked.mapError .fieldLimit

/-- The token of an answer to the `PUT`: only a successful answer with a text has one. -/
def issuedToken (answered : Except BoxError HttpResponse) : Option String :=
  let accepted := answered.toOption.filter fun response => isSuccess response.status
  accepted.bind fun response => response.text.toOption.filter fun value => !value.isEmpty

namespace Config

/-- The `Deserialize` instance of `Config`. -/
def deserialize (members : ConfigMembers) : Config where
  instanceName := members.instanceName
  target := members.target
  resources := members.resources
  cfAccessEnabled := members.cfAccessEnabled.getD false
  cfAccessKey := members.cfAccessKey.getD ""
  cfAccessSecret := members.cfAccessSecret.getD ""
  ec2MetaDomain := members.ec2MetaDomain.getD defaultEc2MetadataDomain

/-- `Config::validate_protocol_identifiers`. -/
def validateProtocolIdentifiers (config : Config) : Except BoxError Unit := do
  limited (validateInstance config.instanceName)
  config.resources.keys.forM fun resource => limited (validateResource resource)

/-- The `PUT` that asks for a token. -/
def tokenRequest (config : Config) : HttpRequest where
  method := .put
  url := trimEndSlashes config.ec2MetaDomain ++ "/latest/api/token"
  headers := [("X-aws-ec2-metadata-token-ttl-seconds", "21600")]

/-- The `GET` of the instance ID, with a token or without. -/
def instanceRequest (config : Config) (token : Option String) : HttpRequest where
  method := .get
  url := trimEndSlashes config.ec2MetaDomain ++ "/latest/meta-data/instance-id"
  headers := (token.map fun token => ("X-aws-ec2-metadata-token", token)).toList

/-- The end of `resolve_instance`, once there is a response. -/
def adopt (crates : ConfigCrates) (config : Config) (response : HttpResponse)
    : Except BoxError Unit × Config :=
  if !isSuccess response.status then
    (.error (.text ("EC2 metadata returned status " ++ crates.displayStatus response.status
      ++ " while resolving instance")), config)
  else
    match response.text with
    | .error error => (.error error, config)
    | .ok text =>
        let name := trim text
        if name.isEmpty then
          (.error (.text "EC2 metadata returned an empty instance id"), config)
        else (.ok (), { config with instanceName := name })

/-- `Config::resolve_instance`: its result, and the configuration that it leaves. -/
def resolveInstance (crates : ConfigCrates) (config : Config)
    : Http (Except BoxError Unit × Config) := do
  if config.instanceName ≠ "ec2" then return (.ok (), config)
  else
    let token := issuedToken (← send config.tokenRequest)
    -- `HeaderValue::from_str(token)?`, before anything else is sent.
    if token.any fun token => !crates.isHeaderValue token then return (.error .header, config)
    else
      match ← send (config.instanceRequest token) with
      | .error error => return (.error error, config)
      | .ok response =>
          let answered ←
            if !isSuccess response.status && token.isSome then send (config.instanceRequest none)
            else pure (.ok response)
          match answered with
          | .error error => return (.error error, config)
          | .ok response => return config.adopt crates response

/-- `Config::from_json`. -/
def fromJson (crates : ConfigCrates) (contents : List UInt8) : Http (Except BoxError Config) := do
  match crates.fromSlice contents with
  | .error error => return .error error
  | .ok members =>
      let (resolved, config) ← (deserialize members).resolveInstance crates
      match resolved with
      | .error error => return .error error
      | .ok () =>
          match config.validateProtocolIdentifiers with
          | .error error => return .error error
          | .ok () => return .ok config

/-- `Config::load`: `files` is `tokio::fs::read`, and the rest is that of `from_json`. -/
def load (crates : ConfigCrates) (files : String → Except BoxError (List UInt8)) (path : String)
    : Http (Except BoxError Config) :=
  match files path with
  | .error error => return .error error
  | .ok contents => fromJson crates contents

end Config

end ProxyClient
