import OperatorKit.Crd.Manifest
import OperatorKit.Http.Client
import OperatorKit.Storage.Files

/-! Where the document that describes the interface comes from. -/

namespace OperatorKit

inductive Source where
  | remote (url : String)
  | file (path : String)
deriving DecidableEq, Repr

namespace Source

def isRemote (location : String) : Bool :=
  "http://".toList.isPrefixOf location.toList || "https://".toList.isPrefixOf location.toList

/-- What is not fetched is a file. -/
def ofLocation (location : String) : Source :=
  if isRemote location then remote location else file location

def location : Source → String
  | remote url => url
  | file path => path

/-- A document that was fetched, from a page that says it is one. -/
def ofPage (page : Page) : Except FetchError Json :=
  match page.requireSuccess with
  | .error e => .error e
  | .ok page => page.decode Json.Decoder.json

def ofFile (files : Files) (path : String) : Except String Json :=
  match files.read path with
  | .error e => .error e.message
  | .ok content => (Json.parseBytes content).mapError Json.ReadError.message

/-- A document, unless the fetch of it does not end. -/
structure Loading where
  requests : List Request
  result : Option (Except CrdError Json)

def load (source : Source) (client : Client) (network : Network) (files : Files) : Loading :=
  match source with
  | remote url =>
    let fetch := client.get network [] url
    { requests := fetch.state.requests
      result := fetch.result.map fun result =>
        (result.bind ofPage).mapError fun e => .sourceUnavailable url e.message }
  | file path =>
    { requests := []
      result := some ((ofFile files path).mapError (.sourceUnavailable path)) }

end Source

def Manifest.generateFrom (source : Source) (client : Client) (network : Network) (files : Files)
    (limit : Nat) : Option (Except CrdError ObjectList) :=
  (source.load client network files).result.map fun result =>
    result.bind fun document => generate document limit

end OperatorKit
