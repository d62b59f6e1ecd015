import ServiceHost.Text.Quoted

set_option autoImplicit false

namespace ServiceHost.Name

def isNameChar (c : Char) : Bool := c.isAlphanum || c = '-' || c = '_' || c = '.'

def isValid (name : String) : Bool := name ≠ "" && name.toList.all isNameChar

end ServiceHost.Name
