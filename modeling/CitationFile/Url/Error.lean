namespace CitationFile.Url

inductive Error where
  | emptyHost
  | internationalDomain
  | port
  | ipv4Address
  | ipv6Address
  | hostCharacter
  | relativeWithoutBase
deriving DecidableEq, Repr

def Error.message : Error → String
  | .emptyHost => "empty host"
  | .internationalDomain => "invalid international domain name"
  | .port => "invalid port number"
  | .ipv4Address => "invalid IPv4 address"
  | .ipv6Address => "invalid IPv6 address"
  | .hostCharacter => "invalid domain character"
  | .relativeWithoutBase => "relative URL without a base"

end CitationFile.Url
