import MediaTypes.Platform.Database

/-!
# Built-in registrations

The registrations that the system database starts from, before any mime file is read.

## Main definitions

- `Database.builtinStrict`, `Database.builtinCommon` — the registrations, in order
- `Database.builtin` — the database of the built-in registrations
-/

namespace MediaTypes

namespace Database

/-- The registrations of the strict map, in order. -/
def builtinStrict : List Registration :=
  [⟨"application/javascript", "js"⟩,
   ⟨"application/javascript", "mjs"⟩,
   ⟨"application/json", "json"⟩,
   ⟨"application/manifest+json", "webmanifest"⟩,
   ⟨"application/msword", "doc"⟩,
   ⟨"application/msword", "dot"⟩,
   ⟨"application/msword", "wiz"⟩,
   ⟨"application/n-quads", "nq"⟩,
   ⟨"application/n-triples", "nt"⟩,
   ⟨"application/octet-stream", "bin"⟩,
   ⟨"application/octet-stream", "a"⟩,
   ⟨"application/octet-stream", "dll"⟩,
   ⟨"application/octet-stream", "exe"⟩,
   ⟨"application/octet-stream", "o"⟩,
   ⟨"application/octet-stream", "obj"⟩,
   ⟨"application/octet-stream", "so"⟩,
   ⟨"application/oda", "oda"⟩,
   ⟨"application/pdf", "pdf"⟩,
   ⟨"application/pkcs7-mime", "p7c"⟩,
   ⟨"application/postscript", "ps"⟩,
   ⟨"application/postscript", "ai"⟩,
   ⟨"application/postscript", "eps"⟩,
   ⟨"application/trig", "trig"⟩,
   ⟨"application/vnd.apple.mpegurl", "m3u"⟩,
   ⟨"application/vnd.apple.mpegurl", "m3u8"⟩,
   ⟨"application/vnd.ms-excel", "xls"⟩,
   ⟨"application/vnd.ms-excel", "xlb"⟩,
   ⟨"application/vnd.ms-powerpoint", "ppt"⟩,
   ⟨"application/vnd.ms-powerpoint", "pot"⟩,
   ⟨"application/vnd.ms-powerpoint", "ppa"⟩,
   ⟨"application/vnd.ms-powerpoint", "pps"⟩,
   ⟨"application/vnd.ms-powerpoint", "pwz"⟩,
   ⟨"application/wasm", "wasm"⟩,
   ⟨"application/x-bcpio", "bcpio"⟩,
   ⟨"application/x-cpio", "cpio"⟩,
   ⟨"application/x-csh", "csh"⟩,
   ⟨"application/x-dvi", "dvi"⟩,
   ⟨"application/x-gtar", "gtar"⟩,
   ⟨"application/x-hdf", "hdf"⟩,
   ⟨"application/x-hdf5", "h5"⟩,
   ⟨"application/x-latex", "latex"⟩,
   ⟨"application/x-mif", "mif"⟩,
   ⟨"application/x-netcdf", "cdf"⟩,
   ⟨"application/x-netcdf", "nc"⟩,
   ⟨"application/x-pkcs12", "p12"⟩,
   ⟨"application/x-pkcs12", "pfx"⟩,
   ⟨"application/x-pn-realaudio", "ram"⟩,
   ⟨"application/x-python-code", "pyc"⟩,
   ⟨"application/x-python-code", "pyo"⟩,
   ⟨"application/x-sh", "sh"⟩,
   ⟨"application/x-shar", "shar"⟩,
   ⟨"application/x-shockwave-flash", "swf"⟩,
   ⟨"application/x-sv4cpio", "sv4cpio"⟩,
   ⟨"application/x-sv4crc", "sv4crc"⟩,
   ⟨"application/x-tar", "tar"⟩,
   ⟨"application/x-tcl", "tcl"⟩,
   ⟨"application/x-tex", "tex"⟩,
   ⟨"application/x-texinfo", "texi"⟩,
   ⟨"application/x-texinfo", "texinfo"⟩,
   ⟨"application/x-troff", "roff"⟩,
   ⟨"application/x-troff", "t"⟩,
   ⟨"application/x-troff", "tr"⟩,
   ⟨"application/x-troff-man", "man"⟩,
   ⟨"application/x-troff-me", "me"⟩,
   ⟨"application/x-troff-ms", "ms"⟩,
   ⟨"application/x-ustar", "ustar"⟩,
   ⟨"application/x-wais-source", "src"⟩,
   ⟨"application/xml", "xsl"⟩,
   ⟨"application/xml", "rdf"⟩,
   ⟨"application/xml", "wsdl"⟩,
   ⟨"application/xml", "xpdl"⟩,
   ⟨"application/zip", "zip"⟩,
   ⟨"audio/3gpp", "3gp"⟩,
   ⟨"audio/3gpp", "3gpp"⟩,
   ⟨"audio/3gpp2", "3g2"⟩,
   ⟨"audio/3gpp2", "3gpp2"⟩,
   ⟨"audio/aac", "aac"⟩,
   ⟨"audio/aac", "adts"⟩,
   ⟨"audio/aac", "loas"⟩,
   ⟨"audio/aac", "ass"⟩,
   ⟨"audio/basic", "au"⟩,
   ⟨"audio/basic", "snd"⟩,
   ⟨"audio/mpeg", "mp3"⟩,
   ⟨"audio/mpeg", "mp2"⟩,
   ⟨"audio/opus", "opus"⟩,
   ⟨"audio/x-aiff", "aif"⟩,
   ⟨"audio/x-aiff", "aifc"⟩,
   ⟨"audio/x-aiff", "aiff"⟩,
   ⟨"audio/x-pn-realaudio", "ra"⟩,
   ⟨"audio/x-wav", "wav"⟩,
   ⟨"image/avif", "avif"⟩,
   ⟨"image/bmp", "bmp"⟩,
   ⟨"image/gif", "gif"⟩,
   ⟨"image/ief", "ief"⟩,
   ⟨"image/jpeg", "jpg"⟩,
   ⟨"image/jpeg", "jpe"⟩,
   ⟨"image/jpeg", "jpeg"⟩,
   ⟨"image/heic", "heic"⟩,
   ⟨"image/heif", "heif"⟩,
   ⟨"image/png", "png"⟩,
   ⟨"image/svg+xml", "svg"⟩,
   ⟨"image/tiff", "tiff"⟩,
   ⟨"image/tiff", "tif"⟩,
   ⟨"image/vnd.microsoft.icon", "ico"⟩,
   ⟨"image/x-cmu-raster", "ras"⟩,
   ⟨"image/x-portable-anymap", "pnm"⟩,
   ⟨"image/x-portable-bitmap", "pbm"⟩,
   ⟨"image/x-portable-graymap", "pgm"⟩,
   ⟨"image/x-portable-pixmap", "ppm"⟩,
   ⟨"image/x-rgb", "rgb"⟩,
   ⟨"image/x-xbitmap", "xbm"⟩,
   ⟨"image/x-xpixmap", "xpm"⟩,
   ⟨"image/x-xwindowdump", "xwd"⟩,
   ⟨"message/rfc822", "eml"⟩,
   ⟨"message/rfc822", "mht"⟩,
   ⟨"message/rfc822", "mhtml"⟩,
   ⟨"message/rfc822", "nws"⟩,
   ⟨"text/css", "css"⟩,
   ⟨"text/csv", "csv"⟩,
   ⟨"text/html", "html"⟩,
   ⟨"text/html", "htm"⟩,
   ⟨"text/n3", "n3"⟩,
   ⟨"text/plain", "txt"⟩,
   ⟨"text/plain", "bat"⟩,
   ⟨"text/plain", "c"⟩,
   ⟨"text/plain", "h"⟩,
   ⟨"text/plain", "ksh"⟩,
   ⟨"text/plain", "pl"⟩,
   ⟨"text/plain", "srt"⟩,
   ⟨"text/richtext", "rtx"⟩,
   ⟨"text/tab-separated-values", "tsv"⟩,
   ⟨"text/vtt", "vtt"⟩,
   ⟨"text/x-python", "py"⟩,
   ⟨"text/x-setext", "etx"⟩,
   ⟨"text/x-sgml", "sgm"⟩,
   ⟨"text/x-sgml", "sgml"⟩,
   ⟨"text/x-vcard", "vcf"⟩,
   ⟨"text/xml", "xml"⟩,
   ⟨"video/mp4", "mp4"⟩,
   ⟨"video/mpeg", "mpeg"⟩,
   ⟨"video/mpeg", "m1v"⟩,
   ⟨"video/mpeg", "mpa"⟩,
   ⟨"video/mpeg", "mpe"⟩,
   ⟨"video/mpeg", "mpg"⟩,
   ⟨"video/quicktime", "mov"⟩,
   ⟨"video/quicktime", "qt"⟩,
   ⟨"video/webm", "webm"⟩,
   ⟨"video/x-msvideo", "avi"⟩,
   ⟨"video/x-sgi-movie", "movie"⟩]

/-- The registrations of the common map, in order. -/
def builtinCommon : List Registration :=
  [⟨"application/rtf", "rtf"⟩,
   ⟨"audio/midi", "midi"⟩,
   ⟨"audio/midi", "mid"⟩,
   ⟨"image/jpg", "jpg"⟩,
   ⟨"image/pict", "pict"⟩,
   ⟨"image/pict", "pct"⟩,
   ⟨"image/pict", "pic"⟩,
   ⟨"image/webp", "webp"⟩,
   ⟨"text/xul", "xul"⟩]

/-- The database before any mime file is read. -/
def builtin : Database where
  strict := TypeMap.empty.registerAll builtinStrict
  common := TypeMap.empty.registerAll builtinCommon

end Database

end MediaTypes
