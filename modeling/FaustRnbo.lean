import FaustRnbo.Patcher
import FaustRnbo.Metadata
import FaustRnbo.Options
import FaustRnbo.IoInfo
import FaustRnbo.Midi
import FaustRnbo.Params
import FaustRnbo.RnboObject
import FaustRnbo.RnboWiring
import FaustRnbo.Polyphony
import FaustRnbo.Patch
import FaustRnbo.Ports
import FaustRnbo.LoadFiles
import FaustRnbo.Subpatchers
import FaustRnbo.Drivers
import FaustRnbo.MidiObjects
import FaustRnbo.TestMode
import FaustRnbo.Codebox
import FaustRnbo.Cords
import FaustRnbo.Controls
