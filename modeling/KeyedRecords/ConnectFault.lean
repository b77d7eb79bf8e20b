import KeyedRecords.Text.Numeral
import KeyedRecords.Text.Quoted
import KeyedRecords.Text.Utf8

/-!
Why a store cannot be connected to.
-/

namespace KeyedRecords

/-- What is wrong with the address of a server. -/
inductive AddressFault where
  | relative
  | emptyHost
  | badDomain
  /-- A character that no host has. -/
  | badCharacter
  | badIPv4
  | badIPv6
  | badPort
  deriving DecidableEq

def AddressFault.text : AddressFault → String
  | .relative => "relative URL without a base"
  | .emptyHost => "empty host"
  | .badDomain => "invalid international domain name"
  | .badCharacter => "invalid domain character"
  | .badIPv4 => "invalid IPv4 address"
  | .badIPv6 => "invalid IPv6 address"
  | .badPort => "invalid port number"

/-- The text of a failure that a database reports by a number and a text. -/
def reported (code : Nat) (text : String) : String :=
  "error returned from database: (code: " ++ Text.decimal code ++ ") " ++ text

inductive ConnectFault where
  | badAddress (fault : AddressFault)
  | unsupportedScheme (scheme : String)
  | unknownParameter (name : String)
  | unknownValue (parameter value : String)
  /-- Bytes of a path that are no text, and the number of bytes before them. -/
  | notText (before : Nat) (gap : Utf8.Gap)
  | zeroInName
  /-- The host of a file that is not on this one. -/
  | badAuthority (host : String)
  | noSuchMode (kind value : String)
  /-- An access beyond the one that was asked for. -/
  | notAllowed (access : String)
  | noSuchFileSystem (name : String)
  | cannotOpen
  deriving DecidableEq

namespace ConnectFault

def gapText (before : Nat) (gap : Utf8.Gap) : String :=
  (if gap.isCutShort then "incomplete utf-8 byte sequence"
    else "invalid utf-8 sequence of " ++ Text.decimal gap.length ++ " bytes") ++
    " from index " ++ Text.decimal before

def text : ConnectFault → String
  | badAddress fault => "Invalid URI: " ++ fault.text
  | unsupportedScheme scheme => "Unsupported URI scheme: " ++ scheme
  | unknownParameter name =>
    "error with configuration: unknown query parameter `" ++ name ++
      "` while parsing connection URL"
  | unknownValue parameter value =>
    "error with configuration: unknown value " ++ Text.displayQuoted value ++ " for `" ++
      parameter ++ "`"
  | notText before gap => "error with configuration: " ++ gapText before gap
  | zeroInName =>
    "error communicating with database: filename passed to SQLite must not contain nul bytes"
  | badAuthority host => reported 1 ("invalid uri authority: " ++ host)
  | noSuchMode kind value => reported 1 ("no such " ++ kind ++ " mode: " ++ value)
  | notAllowed access => reported 3 ("access mode not allowed: " ++ access)
  | noSuchFileSystem name => reported 1 ("no such vfs: " ++ name)
  | cannotOpen => reported 14 "unable to open database file"

end ConnectFault

end KeyedRecords
