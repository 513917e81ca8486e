/-! Networks, the tokens they pay gas in, and their block explorers. Token and explorer follow from the chain
    id alone; a chain that is not known pays in ETH and has no explorer. -/

namespace SplitterLaunch

/-- The token that a chain pays gas in, and the variable that holds its price in US dollars. -/
structure NativeToken where
  symbol : String
  priceVariable : String
deriving DecidableEq, Repr

namespace NativeToken

def eth : NativeToken := ⟨"ETH", "ETH_USD_PRICE"⟩

def matic : NativeToken := ⟨"MATIC", "MATIC_USD_PRICE"⟩

def mega : NativeToken := ⟨"MEGA", "MEGA_USD_PRICE"⟩

/-- The price variables of all tokens, in order. -/
def priceVariables : List String := [eth.priceVariable, matic.priceVariable, mega.priceVariable]

def ofChain (chainId : UInt64) : NativeToken :=
  if chainId = 80002 ∨ chainId = 137 then matic else if chainId = 6342 then mega else eth

end NativeToken

/-- The address of a block explorer's site, as text. -/
abbrev Explorer := String

namespace Explorer

def ofChain? (chainId : UInt64) : Option Explorer :=
  if chainId = 80002 then some "https://amoy.polygonscan.com"
  else if chainId = 137 then some "https://polygonscan.com"
  else if chainId = 6342 then some "https://megaexplorer.io"
  else none

def base (site : Explorer) : String :=
  String.ofList (site.toList.reverse.dropWhile (· == '/')).reverse

def addressPage (site : Explorer) (address : String) : String := base site ++ "/address/" ++ address

def transactionPage (site : Explorer) (hash : String) : String := base site ++ "/tx/" ++ hash

end Explorer

/-- A network that can be selected by name. -/
structure Network where
  name : String
  aliases : List String
  chainId : UInt64
  rpcUrl : String
  explorer : Option Explorer
deriving DecidableEq, Repr

namespace Network

def folded (name : String) : List Char := name.toList.map Char.toLower

def allNames (n : Network) : List String := n.name :: n.aliases

/-- Whether a text is the name or an alias, in ASCII letters of either case. -/
def answersTo (n : Network) (text : String) : Bool := n.allNames.any fun name => folded name == folded text

def token (n : Network) : NativeToken := .ofChain n.chainId

end Network
end SplitterLaunch
