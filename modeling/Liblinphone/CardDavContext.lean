import Mathlib.Data.List.DropRight
import Liblinphone.FriendList

/-! The CardDAV synchronisation of a friend list: the address book is discovered, or
only its cTag is asked for, then its vCards are listed, compared with the friends and
pulled. Queries are answered later, in any order, or never. Local edits wait in the
list until they are put on the server. -/

namespace Liblinphone

structure CardDavResponse where
  url : Text := []
  etag : String := ""
  ctag : String := ""
  displayName : String := ""
  vCard : String := ""
deriving Repr, DecidableEq

/-- A query that was sent. The cTag of a listing, and of the pull that follows it, is
the one that the server announced before it. No function reads it. A pull that follows
a PUT has none. -/
inductive CardDavQuery where
  | userPrincipal
  | userAddressBooksHome
  | addressBookUrlAndCtag
  | addressBookCtag
  | addressbookQuery (announced : String)
  | addressbookMultiget (announced : Option String) (vCards : List CardDavResponse)
  | put (id : FriendId)
deriving Repr, DecidableEq

structure HttpResponse where
  code : Nat := 207
  body : String := ""
  location : String := ""
  etag : String := ""
deriving Repr, DecidableEq

/-- The readers of the bodies of responses and of vCards, the identifiers that the
platform generates, and the beginning of the URLs of the server. -/
structure CardDavPlatform where
  book : AddressBook
  userPrincipalUrl : String → Text
  userAddressBookUrl : String → Text
  addressBookUrlAndCtag : String → List CardDavResponse
  addressBookCtag : String → String
  vcardsEtags : String → List CardDavResponse
  vcards : String → List CardDavResponse
  vcardFromBuffer : String → Option Vcard
  uuid : Nat → String
  urlSchemeHostAndPort : Text

structure CardDavContext where
  friendList : FriendList
  ctag : String := ""
  syncUri : Text := []
  wellKnownQueried : Bool := true
  inFlight : List CardDavQuery := []
  generated : Nat := 0

/-- What happens in a run: a query is handed over, a download ends with the vCards of a
cTag, a download is skipped, a friend waits to be put on the server, a synchronisation
takes a friend out of the list. -/
inductive CardDavEvent where
  | sent (query : CardDavQuery)
  | applied (ctag : String)
  | skipped (ctag : String)
  | dirtied (id : FriendId)
  | removed (id : FriendId)
deriving Repr, DecidableEq

def endsWith (haystack needle : Text) : Bool := needle.isSuffixOf haystack

/-- What follows the last slash. -/
def vcardName (url : Text) : Text := url.rtakeWhile (· != '/')

/-- The URL of a vCard that was pulled. -/
def vcardUrl (syncUri url : Text) : Text :=
  if syncUri.getLast? = some '/' then syncUri ++ vcardName url else syncUri ++ '/' :: vcardName url

namespace FriendList

/-- The number of a new object, that nothing in the list refers to. -/
def freshFriend (list : FriendList) : FriendId :=
  (list.friends ++ list.friendsMapByUri.map Prod.snd ++ list.friendsMapByRefKey.map Prod.snd ++
    list.dirtyFriendsToUpdate).foldr (fun id highest => max (id + 1) highest) 0

/-- The comparison of the friends with the listing of the server. -/
structure Comparison where
  vCardsToPull : List CardDavResponse
  friendsToRemove : List FriendId := []

def isListedAs (vcard : Vcard) (response : CardDavResponse) : Bool :=
  !vcard.url.isEmpty && endsWith vcard.url response.url

/-- A listed vCard with the eTag of the friend is not asked for. -/
def compareFriend (list : FriendList) (comparison : Comparison) (id : FriendId) : Comparison :=
  match (list.friend id).vcard with
  | none => { comparison with friendsToRemove := comparison.friendsToRemove ++ [id] }
  | some vcard =>
    match comparison.vCardsToPull.find? (isListedAs vcard) with
    | none => { comparison with friendsToRemove := comparison.friendsToRemove ++ [id] }
    | some response =>
      if vcard.etag ≠ "" ∧ vcard.etag = response.etag then
        { comparison with vCardsToPull := comparison.vCardsToPull.eraseP (isListedAs vcard) }
      else comparison

def compare (list : FriendList) (vCards : List CardDavResponse) : Comparison :=
  list.friends.foldl list.compareFriend { vCardsToPull := vCards }

def sameUid (list : FriendList) (uid : String) (id : FriendId) : Bool :=
  match (list.friend id).vcard with
  | none => false
  | some vcard => !vcard.uid.isEmpty && !uid.isEmpty && vcard.uid == uid

end FriendList

namespace CardDavContext

variable (platform : CardDavPlatform)

def sendQuery (context : CardDavContext) (query : CardDavQuery) : CardDavContext × List CardDavEvent :=
  ({ context with inFlight := context.inFlight ++ [query] }, [.sent query])

def updateRevision (context : CardDavContext) (revision : String) : CardDavContext :=
  { context with friendList := { context.friendList with revision := revision } }

/-- A successful synchronisation saves the cTag of the context. -/
def serverToClientSyncDone (context : CardDavContext) (success : Bool) : CardDavContext :=
  if success && !context.ctag.isEmpty then context.updateRevision context.ctag else context

def synchronize (context : CardDavContext) : CardDavContext × List CardDavEvent :=
  let context := { context with ctag := context.friendList.revision, syncUri := context.friendList.uri }
  if context.ctag.isEmpty then { context with wellKnownQueried := false }.sendQuery .userPrincipal
  else context.sendQuery .addressBookCtag

/-- The second query goes to the well-known place of the server. -/
def queryWellKnown (context : CardDavContext) (query : CardDavQuery) : CardDavContext × List CardDavEvent :=
  { context with wellKnownQueried := true }.sendQuery query

def fetchVcards (context : CardDavContext) : CardDavContext × List CardDavEvent :=
  context.sendQuery (.addressbookQuery context.ctag)

def userPrincipalUrlRetrieved (context : CardDavContext) (principalUrl : Text) : CardDavContext × List CardDavEvent :=
  if !principalUrl.isEmpty then
    { context with syncUri := platform.urlSchemeHostAndPort ++ principalUrl, wellKnownQueried := true }.sendQuery
      .userAddressBooksHome
  else if context.wellKnownQueried then (context, [])
  else context.queryWellKnown .userPrincipal

def userAddressBookHomeUrlRetrieved (context : CardDavContext) (homeUrl : Text) : CardDavContext × List CardDavEvent :=
  if !homeUrl.isEmpty then
    { context with syncUri := platform.urlSchemeHostAndPort ++ homeUrl }.sendQuery .addressBookUrlAndCtag
  else (context, [])

/-- The cTag is the one that is saved already. -/
def skipSync (context : CardDavContext) (ctag : String) : CardDavContext × List CardDavEvent :=
  (context.serverToClientSyncDone true, [.skipped ctag])

/-- The discovered address book becomes that of the list, with its cTag, before its
vCards are fetched. -/
def addressBookUrlAndCtagRetrieved (context : CardDavContext) (books : List CardDavResponse) :
    CardDavContext × List CardDavEvent :=
  match books with
  | [] => (context, [])
  | addressbook :: _ =>
    if addressbook.ctag.isEmpty || addressbook.ctag != context.ctag then
      let syncUri := platform.urlSchemeHostAndPort ++ addressbook.url
      let displayName := if context.friendList.displayName.isEmpty then addressbook.displayName
        else context.friendList.displayName
      let context := { context with
        ctag := addressbook.ctag, syncUri := syncUri,
        friendList := { context.friendList with displayName := displayName, uri := syncUri } }
      (if !context.ctag.isEmpty then context.updateRevision context.ctag else context).fetchVcards
    else context.skipSync addressbook.ctag

def addressBookCtagRetrieved (context : CardDavContext) (ctag : String) : CardDavContext × List CardDavEvent :=
  if ctag.isEmpty || ctag != context.ctag then { context with ctag := ctag }.fetchVcards
  else context.skipSync ctag

/-- Friends that the listing does not have are removed, and what changed is pulled. An
empty listing ends the synchronisation. -/
def vcardsFetched (context : CardDavContext) (announced : String) (vCards : List CardDavResponse) :
    CardDavContext × List CardDavEvent :=
  if vCards.isEmpty then (context.serverToClientSyncDone true, [.applied announced])
  else
    let comparison := context.friendList.compare vCards
    let list := comparison.friendsToRemove.foldl (FriendList.removeFriend platform.book) context.friendList
    let query := CardDavQuery.addressbookMultiget (some announced) comparison.vCardsToPull
    ({ context with friendList := list, inFlight := context.inFlight ++ [query] },
      comparison.friendsToRemove.map .removed ++ [.sent query])

/-- A vCard that was read gets its URL and eTag, and an identifier when it has none. -/
def pulledVcard (context : CardDavContext) (response : CardDavResponse) (vcard : Vcard) : Vcard :=
  { vcard with
    url := vcardUrl context.syncUri response.url, etag := response.etag,
    uid := if vcard.uid.isEmpty then "urn:" ++ platform.uuid context.generated else vcard.uid }

/-- The friend with the same identifier is replaced. The new one keeps its key. -/
def mergeFriend (list : FriendList) (vcard : Vcard) : FriendList × List CardDavEvent :=
  let newFriend := list.freshFriend
  let created := list.changeFriend newFriend fun _ => ({} : Friend).setVcard vcard
  let found := if (created.friend newFriend).vcard.isSome then list.friends.find? (list.sameUid vcard.uid) else none
  match found with
  | some oldFriend =>
    ((created.changeFriend newFriend fun lf =>
      { lf with refKey := (list.friend oldFriend).refKey, inList := (list.friend oldFriend).inList }).carddavUpdated
        newFriend oldFriend, [.removed oldFriend])
  | none => (created.addFriend platform.book newFriend false, [])

def mergeVcard (context : CardDavContext) (response : CardDavResponse) : CardDavContext × List CardDavEvent :=
  match platform.vcardFromBuffer response.vCard with
  | none => (context, [])
  | some vcard =>
    let merged := mergeFriend platform context.friendList (context.pulledVcard platform response vcard)
    ({ context with friendList := merged.1, generated := context.generated + 1 }, merged.2)

def mergeVcards (context : CardDavContext) : List CardDavResponse → CardDavContext × List CardDavEvent
  | [] => (context, [])
  | response :: rest =>
    let first := context.mergeVcard platform response
    let others := mergeVcards first.1 rest
    (others.1, first.2 ++ others.2)

def vcardsPulled (context : CardDavContext) (announced : Option String) (vCards : List CardDavResponse) :
    CardDavContext × List CardDavEvent :=
  let merged := context.mergeVcards platform vCards
  (merged.1.serverToClientSyncDone true, merged.2 ++ (announced.map .applied).toList)

/-- A PUT that is answered without an eTag is followed by a pull of that vCard. -/
def putAnswered (context : CardDavContext) (id : FriendId) (etag : String) : CardDavContext × List CardDavEvent :=
  match (context.friendList.friend id).vcard with
  | none => (context, [])
  | some vcard =>
    if etag.isEmpty then context.sendQuery (.addressbookMultiget none [{ url := vcard.url }])
    else
      ({ context with friendList := context.friendList.changeFriend id (·.editVcard ({ · with etag := etag })) }, [])

def isSuccess (code : Nat) : Bool := code == 207 || code == 200 || code == 201 || code == 204

def isRedirect (code : Nat) : Bool := code == 301 || code == 302 || code == 307 || code == 308

def processQueryResponse (context : CardDavContext) (query : CardDavQuery) (response : HttpResponse) :
    CardDavContext × List CardDavEvent :=
  if isSuccess response.code then
    match query with
    | .userPrincipal => context.userPrincipalUrlRetrieved platform (platform.userPrincipalUrl response.body)
    | .userAddressBooksHome =>
      context.userAddressBookHomeUrlRetrieved platform (platform.userAddressBookUrl response.body)
    | .addressBookUrlAndCtag =>
      context.addressBookUrlAndCtagRetrieved platform (platform.addressBookUrlAndCtag response.body)
    | .addressBookCtag => context.addressBookCtagRetrieved (platform.addressBookCtag response.body)
    | .addressbookQuery announced => context.vcardsFetched platform announced (platform.vcardsEtags response.body)
    | .addressbookMultiget announced _ => context.vcardsPulled platform announced (platform.vcards response.body)
    | .put id => context.putAnswered id response.etag
  else if context.wellKnownQueried then (context, [])
  else context.queryWellKnown query

/-- A query that is in flight is answered. -/
def answer (context : CardDavContext) (query : CardDavQuery) (response : HttpResponse) :
    CardDavContext × List CardDavEvent :=
  let context := { context with inFlight := context.inFlight.erase query }
  if isRedirect response.code then
    if response.location.isEmpty then (context, []) else context.sendQuery query
  else if response.code == 401 then (context, [])
  else context.processQueryResponse platform query response

/-- The vCard that is put on the server: it gets an identifier and a URL when it has
none, unless the server is not known either. -/
def vcardToPut (context : CardDavContext) (vcard : Vcard) : Option Vcard :=
  let vcard := if vcard.uid.isEmpty then { vcard with uid := "urn:" ++ platform.uuid context.generated } else vcard
  if !vcard.url.isEmpty then some vcard
  else if context.syncUri.isEmpty then none
  else some { vcard with
    url := context.syncUri ++ "/linphone-".toList ++ (platform.uuid (context.generated + 1)).toList ++ ".vcf".toList }

/-- Nothing is put before a first synchronisation. -/
def putVcard (context : CardDavContext) (id : FriendId) : CardDavContext × List CardDavEvent :=
  if context.ctag.isEmpty then (context, [])
  else
    match (context.friendList.friend id).vcard with
    | none => (context, [])
    | some vcard =>
      match context.vcardToPut platform vcard with
      | none => (context, [])
      | some vcard =>
        { context with
          generated := context.generated + 2
          friendList := context.friendList.changeFriend id (·.editVcard fun _ => vcard) }.sendQuery (.put id)

def putVcards (context : CardDavContext) : List FriendId → CardDavContext × List CardDavEvent
  | [] => (context, [])
  | id :: rest =>
    let first := context.putVcard platform id
    let others := putVcards first.1 rest
    (others.1, first.2 ++ others.2)

/-- The friends no longer wait, whether they were put on the server or not. -/
def updateDirtyFriends (context : CardDavContext) : CardDavContext × List CardDavEvent :=
  let sent := context.putVcards platform context.friendList.dirtyFriendsToUpdate
  ({ sent.1 with friendList := { sent.1.friendList with dirtyFriendsToUpdate := [] } }, sent.2)

def addFriend (context : CardDavContext) (id : FriendId) : CardDavContext × List CardDavEvent :=
  let list := context.friendList.addFriend platform.book id true
  ({ context with friendList := list },
    (list.dirtyFriendsToUpdate.filter fun other => !context.friendList.dirtyFriendsToUpdate.contains other).map
      .dirtied)

/-- `Friend::done`, given whether the vCard changed since `Friend::edit`. -/
def done (context : CardDavContext) (id : FriendId) (changed : Bool) : CardDavContext × List CardDavEvent :=
  let lf := context.friendList.friend id
  if lf.vcard.isSome && changed then
    let list := context.friendList.changeFriend id (·.editVcard (·.cleanCache))
    if lf.inList then
      ({ context with friendList := { list with dirtyFriendsToUpdate := list.dirtyFriendsToUpdate ++ [id] } },
        [.dirtied id])
    else ({ context with friendList := list }, [])
  else (context, [])

end CardDavContext

/-- What is asked of the context and of the friends, and what happens to the queries
in flight. -/
inductive CardDavInput where
  | synchronize
  | answered (query : CardDavQuery) (response : HttpResponse)
  | interrupted (query : CardDavQuery)
  | addFriend (id : FriendId)
  | edit (id : FriendId) (vcard : Vcard)
  | done (id : FriendId) (changed : Bool)
  | updateDirtyFriends

def CardDavContext.step (platform : CardDavPlatform) (context : CardDavContext) :
    CardDavInput → CardDavContext × List CardDavEvent
  | .synchronize => context.synchronize
  | .answered query response =>
    if query ∈ context.inFlight then context.answer platform query response else (context, [])
  | .interrupted query => ({ context with inFlight := context.inFlight.erase query }, [])
  | .addFriend id => context.addFriend platform id
  | .edit id vcard =>
    ({ context with friendList := context.friendList.changeFriend id (·.editVcard fun _ => vcard) }, [])
  | .done id changed => context.done id changed
  | .updateDirtyFriends => context.updateDirtyFriends platform

end Liblinphone
