import Liblinphone.Cpim
import Liblinphone.CpimGrammar

/-! The headers of CPIM messages but for the dates: their classes, the nodes that the parser
makes of their lines, and the headers that these create. -/

namespace Liblinphone.Cpim

open Library

/-- A text with a URI between angle brackets, and what stands in front of them. A URI has
no such bracket. -/
def readBracketed (value : Text) : Option (Text × Text) :=
  let start := value.dropLast.rdropWhile (· != '<')
  let uri := value.dropLast.rtakeWhile (· != '<')
  if value.getLast? = some '>' ∧ start.getLast? = some '<' ∧ Rule.uri.rmatch uri = true then some (start.dropLast, uri) else none

inductive ContactName where
  | fromHeader | toHeader | ccHeader
deriving Repr, DecidableEq

def ContactName.getName : ContactName → Text
  | fromHeader => "From".toList
  | toHeader => "To".toList
  | ccHeader => "cc".toList

structure ContactHeader where
  uri : Text := []
  formalName : Text := []
deriving Repr, DecidableEq

namespace ContactHeader

/-- The quotes are taken away, or else one space at the end. -/
def setFormalName (header : ContactHeader) (formalName : Text) : ContactHeader :=
  if formalName.head? = some '"' ∧ formalName.getLast? = some '"' then { header with formalName := formalName.tail.dropLast }
  else if formalName.getLast? = some ' ' then { header with formalName := formalName.dropLast }
  else { header with formalName := formalName }

def create (uri formalName : Text) : ContactHeader := ({ uri := uri } : ContactHeader).setFormalName formalName

def getValue (header : ContactHeader) : Text :=
  (if header.formalName.isEmpty then [] else '"' :: header.formalName ++ ['"']) ++ '<' :: header.uri ++ ['>']

def asString (name : ContactName) (header : ContactHeader) : Text := name.getName ++ [':', ' '] ++ header.getValue ++ crlf

end ContactHeader

structure ContactHeaderNode where
  formalName : Text := []
  uri : Text := []
deriving Repr, DecidableEq

namespace ContactHeaderNode

def ofHeader (header : ContactHeader) : ContactHeaderNode := { formalName := header.formalName, uri := header.uri }

def isValid (node : ContactHeaderNode) : Bool := !node.uri.isEmpty

def createHeader (node : ContactHeaderNode) : Option ContactHeader :=
  if node.isValid then some (.create node.uri node.formalName) else none

def read (value : Text) : Option ContactHeaderNode :=
  (readBracketed value).bind fun read =>
    if read.1.isEmpty || isFormalName read.1 then some { formalName := read.1, uri := read.2 } else none

end ContactHeaderNode

structure SubjectHeader where
  subject : Text := []
  language : Text := []
deriving Repr, DecidableEq

namespace SubjectHeader

def getValue (header : SubjectHeader) : Text :=
  (if header.language.isEmpty then [] else ";lang=".toList ++ header.language) ++ ' ' :: header.subject

def asString (header : SubjectHeader) : Text := "Subject:".toList ++ header.getValue ++ crlf

end SubjectHeader

structure SubjectHeaderNode where
  language : Text := []
  subject : Text := []
deriving Repr, DecidableEq

namespace SubjectHeaderNode

def ofHeader (header : SubjectHeader) : SubjectHeaderNode := { language := header.language, subject := header.subject }

def isValid (node : SubjectHeaderNode) : Bool := !node.subject.isEmpty

def createHeader (node : SubjectHeaderNode) : Option SubjectHeader :=
  if node.isValid then some { subject := node.subject, language := node.language } else none

def read (value : Text) : Option SubjectHeaderNode :=
  let start := value.takeWhile (· != ' ')
  let subject := (value.dropWhile (· != ' ')).tail
  if ' ' ∈ value ∧ isHeaderValue subject then
    if start.isEmpty then some { subject := subject }
    else if (start.take 6).map Char.toLower = ";lang=".toList ∧ isLanguageTag (start.drop 6) then
      some { language := start.drop 6, subject := subject }
    else none
  else none

end SubjectHeaderNode

structure NsHeader where
  uri : Text := []
  prefixName : Text := []
deriving Repr, DecidableEq

namespace NsHeader

def getValue (header : NsHeader) : Text :=
  (if header.prefixName.isEmpty then [] else header.prefixName ++ [' ']) ++ '<' :: header.uri ++ ['>']

def asString (header : NsHeader) : Text := "NS: ".toList ++ header.getValue ++ crlf

end NsHeader

structure NsHeaderNode where
  prefixName : Text := []
  uri : Text := []
deriving Repr, DecidableEq

namespace NsHeaderNode

def ofHeader (header : NsHeader) : NsHeaderNode := { prefixName := header.prefixName, uri := header.uri }

def isValid (node : NsHeaderNode) : Bool := !node.uri.isEmpty

def createHeader (node : NsHeaderNode) : Option NsHeader :=
  if node.isValid then some { uri := node.uri, prefixName := node.prefixName } else none

def read (value : Text) : Option NsHeaderNode :=
  (readBracketed value).bind fun read =>
    if read.1.isEmpty then some { uri := read.2 }
    else if read.1.getLast? = some ' ' ∧ isName read.1.dropLast then some { prefixName := read.1.dropLast, uri := read.2 }
    else none

end NsHeaderNode

structure RequireHeader where
  headerNames : List Text := []
deriving Repr, DecidableEq

/-- A comma stands in front of each name that is not the first one. -/
def joinNames (names : List Text) : Text :=
  names.flatMap fun header => if some header ≠ names.head? then ',' :: header else header

namespace RequireHeader

def ofText (headerNames : Text) : RequireHeader := { headerNames := headerNames.splitOn ',' }

def getValue (header : RequireHeader) : Text := joinNames header.headerNames

def asString (header : RequireHeader) : Text := "Require: ".toList ++ header.getValue ++ crlf

end RequireHeader

structure RequireHeaderNode where
  headerNames : Text := []
deriving Repr, DecidableEq

namespace RequireHeaderNode

def ofHeader (header : RequireHeader) : RequireHeaderNode := { headerNames := joinNames header.headerNames }

def isValid (node : RequireHeaderNode) : Bool := !node.headerNames.isEmpty

def createHeader (node : RequireHeaderNode) : Option RequireHeader :=
  if node.isValid then some (.ofText node.headerNames) else none

def read (value : Text) : Option RequireHeaderNode :=
  if (value.splitOn ',').all isHeaderName then some { headerNames := value } else none

end RequireHeaderNode

def reserved : List Text := ["From", "To", "cc", "DateTime", "Subject", "NS", "Require"].map String.toList

theorem unnamed_free : [] ∉ reserved := by decide

/-- A generic header does not take the name of another class. -/
@[ext] structure GenericHeader where
  name : Text := []
  value : Text := []
  parameters : List (Text × Text) := []
  free : name ∉ reserved := by exact unnamed_free
deriving Repr, DecidableEq

namespace GenericHeader

def setName (header : GenericHeader) (name : Text) : GenericHeader :=
  if free : name ∈ reserved then header else { header with name := name, free := free }

def readParameter (parameter : Text) : Option (Text × Text) :=
  if '=' ∈ parameter then some (parameter.takeWhile (· != '='), (parameter.dropWhile (· != '=')).tail) else none

def readParameters (parameters : Text) : List (Text × Text) := (parameters.splitOn ';').filterMap readParameter

def create (name value parameters : Text) : GenericHeader :=
  { (({} : GenericHeader).setName name) with value := value, parameters := readParameters parameters }

def parametersText (header : GenericHeader) : Text :=
  header.parameters.flatMap fun parameter => ';' :: parameter.1 ++ '=' :: parameter.2

def asString (header : GenericHeader) : Text :=
  header.name ++ ':' :: header.parametersText ++ ' ' :: header.value ++ crlf

end GenericHeader

structure HeaderNode where
  name : Text := []
  value : Text := []
  parameters : Text := []
deriving Repr, DecidableEq

namespace HeaderNode

def ofHeader (header : GenericHeader) : HeaderNode where
  name := header.name
  value := header.value
  parameters := header.parametersText

def setName (node : HeaderNode) (name : Text) : HeaderNode := if name ∈ reserved then node else { node with name := name }

def isValid (node : HeaderNode) : Bool := !node.name.isEmpty && !node.value.isEmpty

def createHeader (node : HeaderNode) : Option GenericHeader :=
  if node.isValid then some (.create node.name node.value node.parameters) else none

/-- The rule `Header`. -/
def read (line : Text) : Option HeaderNode :=
  let name := line.takeWhile (· != ':')
  let cut := cutOutside ' ' .outside (line.dropWhile (· != ':')).tail
  let value := cut.2.tail
  if ':' ∈ line ∧ cut.2 ≠ [] ∧ isHeaderName name ∧ isParameters cut.1 ∧ isHeaderValue value then
    some { (({} : HeaderNode).setName name) with parameters := cut.1, value := value }
  else none

end HeaderNode

/-- Where a name puts a header, and the name that is left. The name of another class does not replace it. -/
def placed (front : Text) : Text × Text :=
  if '.' ∈ front then
    (front.takeWhile (· != '.'),
      if (front.dropWhile (· != '.')).tail ∈ reserved then front else (front.dropWhile (· != '.')).tail)
  else ([], front)

/-- The headers of all classes but that of the dates. -/
inductive PlainHeader where
  | contact (name : ContactName) (header : ContactHeader)
  | subject (header : SubjectHeader)
  | ns (header : NsHeader)
  | require (header : RequireHeader)
  | generic (header : GenericHeader)
deriving Repr, DecidableEq

namespace PlainHeader

def asString : PlainHeader → Text
  | contact name header => header.asString name
  | subject header => header.asString
  | ns header => header.asString
  | require header => header.asString
  | generic header => header.asString

/-- `Parser::cloneHeader`. -/
def cloneHeader : PlainHeader → Option PlainHeader
  | contact name header => (ContactHeaderNode.ofHeader header).createHeader.map (contact name)
  | subject header => (SubjectHeaderNode.ofHeader header).createHeader.map subject
  | ns header => (NsHeaderNode.ofHeader header).createHeader.map ns
  | require header => (RequireHeaderNode.ofHeader header).createHeader.map require
  | generic header => (HeaderNode.ofHeader header).createHeader.map generic

end PlainHeader

inductive PlainNode where
  | contact (name : ContactName) (node : ContactHeaderNode)
  | subject (node : SubjectHeaderNode)
  | ns (node : NsHeaderNode)
  | require (node : RequireHeaderNode)
  | generic (node : HeaderNode)
deriving Repr, DecidableEq

namespace PlainNode

/-- Only the nodes of generic headers are given a name. -/
def getName : PlainNode → Text
  | generic node => node.name
  | _ => []

def setName : PlainNode → Text → PlainNode
  | generic node, name => generic (node.setName name)
  | node, _ => node

def createHeader : PlainNode → Option PlainHeader
  | contact name node => node.createHeader.map (.contact name)
  | subject node => node.createHeader.map .subject
  | ns node => node.createHeader.map .ns
  | require node => node.createHeader.map .require
  | generic node => node.createHeader.map .generic

def readContact (name : ContactName) (line : Text) : Option PlainNode :=
  ((skip (name.getName ++ [':', ' ']) line).bind ContactHeaderNode.read).map (contact name)

/-- The rule `Message-header`. Of rules that have the whole line, the first one is taken. -/
def read (line : Text) : Option PlainNode :=
  [readContact .fromHeader line, readContact .toHeader line, readContact .ccHeader line,
    ((skip "Subject:".toList line).bind SubjectHeaderNode.read).map subject,
    ((skip "NS: ".toList line).bind NsHeaderNode.read).map ns,
    ((skip "Require: ".toList line).bind RequireHeaderNode.read).map require,
    (HeaderNode.read line).map generic].findSome? id

/-- A name with a dot is in the namespace before the dot. -/
def createMessageHeader (node : PlainNode) : Option (Text × PlainHeader) :=
  let name := node.getName
  if '.' ∈ name then
    (node.setName (name.dropWhile (· != '.')).tail).createHeader.map fun header => (name.takeWhile (· != '.'), header)
  else node.createHeader.map fun header => ([], header)

end PlainNode

def plainHeaders : OtherHeaders PlainHeader where
  asString := PlainHeader.asString
  cloneHeader := PlainHeader.cloneHeader
  messageHeader line := (PlainNode.read line).bind PlainNode.createMessageHeader
  contentHeader line := (HeaderNode.read line).bind fun node => node.createHeader.map .generic

end Liblinphone.Cpim
