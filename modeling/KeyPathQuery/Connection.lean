import KeyPathQuery.Text.LowerCase

/-!
What is known of the connection that a query runs on. Dialects are chosen by its identity: the
driver name and the class name, either of which may be missing. A text is looked for in an
identity with both in lower case, each as a whole.
-/

set_option autoImplicit false
set_option relaxedAutoImplicit false

namespace KeyPathQuery

/-- A connection: its name, the name of its driver, and the name of its class. -/
structure Connection where
  name : Option Text := none
  driver : Option Text := none
  className : Option Text := none
deriving DecidableEq, Repr, Inhabited

namespace Connection

/-- The mark after the scheme of a connection URL. -/
def schemeMark : Text := "://".toList

/-- A connection of which nothing is known. -/
def unknown : Connection := {}

/-- A connection known by its driver. -/
def ofDriver (driver : Text) : Connection :=
  { driver := some driver }

/-- The connection of a URL: its driver is the scheme, unless that is empty or missing. -/
def ofUrl (url : Text) : Connection :=
  match url.cut schemeMark with
  | some (scheme, _) => if scheme.isEmpty then unknown else ofDriver scheme
  | none => unknown

/-- The connection that a driver name or URL describes: a text with a scheme mark is a URL. -/
def ofDriverOrUrl (text : Text) : Connection :=
  if schemeMark.occursIn text then ofUrl text else ofDriver text

/-- The texts that identify the connection. -/
def identities (connection : Connection) : List Text :=
  connection.driver.toList ++ connection.className.toList

/-- Whether anything identifies the connection. -/
def hasIdentity (connection : Connection) : Bool :=
  !connection.identities.isEmpty

/-- Whether one of the fragments occurs in an identity of the connection, all in lower case. -/
def identityContains (connection : Connection) (fragments : List Text) : Bool :=
  connection.identities.any fun identity ↦
    fragments.any fun fragment ↦ fragment.lowerCase.occursIn identity.lowerCase

/-- The connection in words: its name or else its class, with the driver in brackets. -/
def display (connection : Connection) : Text :=
  let driver := connection.driver.getD "unknown".toList
  match connection.name, connection.className with
  | some name, _ => name ++ " (".toList ++ driver ++ ")".toList
  | none, some className => driver ++ " (".toList ++ className ++ ")".toList
  | none, none => driver

end Connection

end KeyPathQuery
