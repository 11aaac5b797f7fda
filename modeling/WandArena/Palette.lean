/-! Colours of the terminal palette of 256. -/
namespace WandArena.Palette

def cyan : Int := 51
def magenta : Int := 201
def yellow : Int := 226
def green : Int := 46
def red : Int := 196
def mana : Int := 63
def gray : Int := 245
def darkGray : Int := 238
def darkerGray : Int := 235
def white : Int := 255
/-- The colour of a cell nobody drew in. -/
def plain : Int := 7

end WandArena.Palette
