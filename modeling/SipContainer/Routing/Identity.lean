import SipContainer.Error
import SipContainer.Message.Uri
import SipContainer.Routing.NameTable
import SipContainer.Text.Split
/-!
The routing identity of a request: which application it is for, and which application session of
it. The container hides the identity in what the other side has to send back, either as parameters
of its route or inside the tag it puts into the To header, and recovers it from there.
-/

namespace SipContainer

structure RouteIdentity where
  applicationName : String
  applicationId : String
deriving DecidableEq, Repr

namespace RouteIdentity

def render (identity : RouteIdentity) : String :=
  identity.applicationName ++ "/" ++ identity.applicationId

def nameParam : String := "appname"

def idParam : String := "app_id"

def encodeRoute (identity : RouteIdentity) (uri : Uri) : Uri :=
  (uri.withParam nameParam (some (NameTable.hash identity.applicationName))).withParam idParam
    (some identity.applicationId)

def tagSeparator : Char := '_'

def renderRandom (random : UInt32) : String :=
  Text.hex [(random >>> 24).toUInt8, (random >>> 16).toUInt8, (random >>> 8).toUInt8,
    random.toUInt8]

def tagTail (identity : RouteIdentity) : String :=
  "_" ++ NameTable.hash identity.applicationName ++ "_" ++ identity.applicationId

def composeTag (random : UInt32) (identity : RouteIdentity) : String :=
  renderRandom random ++ identity.tagTail

/-- The random part, the hash and the identifier of a tag, none of them empty. The identifier may
itself hold separators. -/
def tagParts? (tag : String) : Option (String × String × String) :=
  match Text.splitFirst? tagSeparator tag.toList with
  | none => none
  | some (random, rest) =>
    match Text.splitFirst? tagSeparator rest with
    | none => none
    | some (hash, id) =>
      if random.isEmpty || hash.isEmpty || id.isEmpty then none
      else some (String.ofList random, String.ofList hash, String.ofList id)

def decodeTag (table : NameTable) : Option String → Except DispatchError (Option RouteIdentity)
  | none => .ok none
  | some tag =>
    if !tag.toList.contains tagSeparator then .ok none
    else match tagParts? tag with
      | none => .error (.malformedIdentity
          ("the To tag " ++ tag ++ " is not a valid application routing tag"))
      | some (_, hash, applicationId) =>
        match table.name? hash with
        | none => .error (.malformedIdentity
            ("the To tag " ++ tag ++ " references an unknown application hash " ++ hash))
        | some applicationName => .ok (some { applicationName, applicationId })

end RouteIdentity

end SipContainer
